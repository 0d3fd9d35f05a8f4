/-!
# Known signatures, part D
-/

namespace EvmFlow
namespace Listing

/-- Known signatures from `addToShareHoldersProfit` to `buyEnabled`. -/
def partD : String :=
"0addToShareHoldersProfit(cc
6pecialRatesMapping(ba
6yncList(b
5@LockedList(b
6okenLocked(g
:;DisallowedList(b
6radeList(hhhh
8nsac~DisallowedList(b
:ferWhiteList(b
5Unminted(a
5VIPList(g
6estMap(baaaa
5WhiteList(b
@a
Aa
@b
?db
?g
@a
>Multiple(g
Hg
:list(b
@a
Aa
Aee
Af
@g
@ka
?eb
?g
>Alloca~(fbe
>Bulk(g
>Multiple(g
6ithoutFee(b
5ken(a
9b
:a
;a
;cccc
:b
:ccec
=jj
:d
:e
8!(b
9pproveSignatures(a
8=(ba
8Data(acc
9etails(aghhh
8Emission(aaa
8Grant(ba
@nkk
8Holder(b
8Lock(aa
=baa
8Pair(bbaaaa
<Whitelist(bb
9ending$
8Shop(ba
9upply(a
8Teller(ba
9ime(aa
9oApprove(baaa
:Directory(b
:TotalSupply(a
9rust(b
8|InWhitelist(b
8iza~(cce
8s
9(a
:ba
<a
:da
:qa
9Multi(gh
9ToAccount(qa
;Bank(ba
;Campaign(da
;Return(bbaf
5talIndividualWei?(ba
8Supply(a
>?(a
5urnamentContender(bh
5wardsTarget(aa
4rader(b
:eb
7ingProxy(b
6nsac~(baj
Ba
?clc
8ferAndCallWhitelist(b
;WhiteList(b
;rer(b
6ps(ajh
5easuryManager(b
5usted(b
:&(b
B!(b
Bs(g
:Issuer(bc
4urretParts(p
4win!(b
5oWayLine(acae
4x(bac
7bac
6dsb
5ToCustomerRegistry(baa
Idaa
7Registry(daaa
Adaaa
3UnderDog(a
8graduateTo(bccceeeeeeii
5iqueSale$s(ba
CMulti(gh
:pinner(cabaeee
5locked!(b
5paused|(b
5releasedChecklistItem(ee
5soldAlloca~Order(d
9$s
4pdateGrantee(ba
5grade(aaaaaaa
4ser(b
9a
:edd
9d
8c
7=(il
9ttleValue(ba
7Endorsement(bfcc
7IntoBlacklist(b
7ToList(b
7s(g
8ToGroup(dg
8WhitelistA(g
AB(g
4tilityHolder(b
3VIP(b
4alid&(b
8Plugin(d
8ator(b
6ueBonus(aa
8ToContribu~(a
<vfefe(a
4erifica~Data(bcraccac
<or!(b
9ed(g
;!(b
;Info(bcecc
;User(b
:r(b
6sion(b
5st$Alloca~(ba
7ing(ba
=a
<baaaaf
;ghh
:Admin(b
:ForBeneficiaries(gh
:Member(baaa
:Rule(baa
:Schedule(bhh
:User(ba
7or(baaa
4ideoGame(cba
<Item(cbaa
5neyard(ckKik
;ByRegulator(cckKik
;Endorsement(cafcc
4olumeDiscount(ae
5ter(b
:bd
8Vote(b
6ing(a
:ba
3|(b
;a
;c
9!And$s(aba
@es(ab
9Config(aaaa
5rrior(baec
4eapon(acccb
:keeeeef
5i(ba
6ght
4hiteBacker(b
>sByList(g
8List(b
>a
>f
=d
=eba
=g
<AddSetAuc~Obj(baa
<Multi(g
<User(baa
@s(ghh
<ed(g
@hh
>!esInBatch(g
>&s(b
>Investor(bc
=r(b
8list(b
>a
=g
>h
<AddrByList(g
@esArray(g
Bs(b
>min(b
<Bulk(gh
<Member(gh
<Operator(b
<User(b
Ba
@s(g
Ch
<ed(bf
?gph
>Addr(b
>Burn(b
>$Addr(b
?ransfer(b
Gg
>UserAddr(b
<s(gh
4ineryOpera~(cccakc
BByRegulator(ccccakc
BEndorsement(cafcc
5re(baa
5thdrawal(ba
4ord(c
6kRecord(aq
7er(b
3XY(aaaa
3Year$
4ouCollect&(bf
3Zethr!es(bb
3_address(b
7ys(gh
6min(b
5llowed!(b
5nother_owner(b
4blocked!(b
5onus(a
6unty
4coin(ccbe
4hard_limit(a
4luck(d
4record(c
6ferral(bca
6ward
4scribe(b
4to_bounty
8uy_bounty
7ico
7withdraw_bounty
6kens(ba
4user(b
3coin(cc
7fee
7slimit
3dotchtooffer(aa
3ed(b
3guess
8(a
3ieren(aa
4~^
8al(a
:Ac~(dh
:Bonus
??s(a
?OwnerState(b
?Percent
:Debt
:Emission
:Info(a
:Mint
:Owners(b
@List(a
:PreMine(a
=saleInvestors
:$Rate
<talSupply(a
:_incentive
;price_money
3member(ab
3newOwner(b
3product(ccac
3r
4(a
5c
6b
5d
41
42
43
44
4Admin
5irDrop
4BRXPay
5ounty
5roker
4CET4Count(b
76Count(b
5otracts(a
4DevTeam
7elopment
5istribu~
4Executor
4FWD
5abric&
5inance
4HasInvested(b
4List(a
5ockUp
8edFunds
4Mine
4Owner
4Pids(b
4Sale
5ervice
4Team
5oDoctor(b
6ForumId(b
6Master(b
6Student(b
6Undergaduate(b
4_Saddlery
5communityBuilding$
5forge
5pID_(b
5teamPart$
4e(b
5ss1
8a
72
8PID_(b
8SendErrorValue(b
8a
73
8a
74
8a
75
8a
7A
8dded(b
9visors
>yBountyTeam
8irdrop
8nd=
8rray(a
8ttached(r
<kCount(b
8vailabilityMap(b
7B
8alance(b
>s(b
9nkPartners
8elongsToAccount(b
8ilborough
8ounty
8yId(a
:ndex(a
7C
8EO
8OO
8anContribute(b
9p(b
9shwolf
8hangeBlock
=Requests(b
8ommunity
9reSupply
9unt
<(<DRCTLibrary.$Storage storage>b
=b
7D
8ataProviders
8efenseCount(b
9v
8ividendReserve
7ERC20$
8THDeposit
8ccles
8xists(b
7Fin
8ounders
?Share
8reezeStatus(b
8undAdministra~
<irdrop
;Bonus
=unty
;Developers
<igitalMarket
;Founda~
@er
;Holder
;Investment
;Platform
;Reserve
;Team
9tureInvest
7Gains(b
7Hash(b
8istoryOf(a
7ICOManager
8co
8nSwap(bb
9dex(b
<ToAuc~Count(ba
>OrderCount(ba
:ices(a
9fo(b
;s(b
8sCrowdsale(b
9Owner(b
9Splitter(b
:takeDiceGame&(b
9Whitelisted(b
7Jenkins
7KYC(b
:Status(b
7LandsCount(b
9stClickedForGenera~(b
8eskiw
8ist(a
8ocked(b
;s(b
7Map(a
9sterNodes
9xCap(b
8inCap(b
7NotUpgradable
7Of(d
9Choice(ab
9ERC20Old$
>Tocken
@ken
9MSF
9$UsedAsReward
J1
J2
J3
J4
J5
8ps
7Partnerships
CAndExchanges
8eople
8lanetsCount(b
8osi~s(ba
8reSale
:mineBounty
9ivateSale
7Reserve
>Fund
>Supply
7SCComplianceService
9Escrow
9ICO
9$s
8alesSupply
8haresCount(b
8torage(d
8upporters
7Team
8hreshold
8oAccountMap
C(b
:pprovedAll(b
:vatar(b
9=(b
;ttleToFigterIdToBetPower(baa
:ets(ba
:lock(gf
9CampaignIDToFundsDonated(ba
9Dividend=(b
9Elo(b
:nemyCombina~(b
:therContributed(b
>Owed(b
9FailedOldOwner;?(b
:reeSummon@stamp(b
9GoldDeposit(b
9Handle(b
9IsInLeaderboard(b
9LarePurchased(b
9MileagePoint(b
9NumCities(b
<Towns(b
<Villages(b
9Pass(gf
:layRecord(b
CDate@(b
:owerlevel(b
:rogress(ba
:unkIndex
;rchasedBlocks(ba
B$s(b
9ReceiverToAllowedSprite(bba
DmountAllowed(bb
9SpentEther(b
;littersCreated(ba
:tring(b
9$HolderIndex(b
;talEtherSpent(b
>PurchasesMade(b
:rainer(b
:urnInfo(b
9User(b
9Value(b
:esting(b
9ken
8ransac~s(ba
8ype(b
7_to_tickets(b
<okens_prev_week0(b
K1(b
7book(b
7es
9(a
;aa
:b
:d
91(a
92(a
93(a
94(a
96(a
9Allowed(b
9Deposited(b
9Imported(baa
9Length
9Reserving(a
9ToChatMessagesLeft(b
;TotalWeiPlaced(b
;Usernames(b
4s(a
3shares(ab
4mart&Adress(b
3toContributos(baa
@2(baa
5EarlyInvestors(baa
5Leaderboard(lll
5MarketingBusinessDev(baa
5Owners(b
5PrivateSale(baa
5TechOpera~(baa
5Whitelist(ba
5blacklist(b
5kens
3user(ccb
2exTeam!
2just=(b
?m
6Cap
9(aaaa
7ommission(aa
7ut(aa
6DefaultSprite^(aa
7ollarToEtherRatio(a
7ura~(a
6Entitlement(ba
6Feature^(a
8e(a
9?(a
9Mode(e
9Percentage(a
7lame(a
6HardCap(a
6KPIs(aa
6L(a
7imitBetweenIssueAndNormal(af
7oanParams(aaa
6MOTFeeDiscount(a
7inimumPledge?(a
9ter(bf
6NextTranche(ee
6PointsDecayFactor(a
7rice(a
;AndOwnerOfPlayerDuringPresale(aba
;OfCountryPlayersAfterWin(a
;s(aa
6Rate(a
<aa
7egistra~Fee(a
8ward(a
6Supply(a
>aa
6Tap(a
7ime(aaaaaa
9ing(aa
7okenExchangeRate(a
7radeRange(aa
9nche(a
:sac~Fee(a
6WithdrawRate(iiiiiiiii
6_ERC223;(f
7;_data(f
@nodata(f
6ed
8Pot=
8Raised
2mAccount(bf
3_trasfer(bba
3in
5(b
7e
6cccc
51
52
53
5Add(bc
8Ballot(caa
>Op~(ic
8City(cak
9ountry(c
8ICO(aaaaaaaa
8Monument(cak
8Role(bc
8TrustedCurrency&(b
8World=
8r
9ess
<ForComissions
6llowance
6mendBallot(icaa
6rray(a
5Burn(a
5Changed(bb
8rge_p1
=2
=3
6laimAirdrop(b
Ca
AMultiple(g
Ka
:$ForUser(b
6ollectPastShopFund
7mmand(eba
7ntractSecurity(bfff
?ttings(iba
7unt
6reat(b
5EditBallotOp~(iic
9City(kcab
5Fee
5Get=
8CityData(b
9ontract=
8Enabled
8PastShopFund
9layer(a
>Count
8WorldData
=Snapshot(a
5Id(b
6sAdmin
7Dead
5Lockdown
7g(a
5Mint(ba
6ode
6ultiSig
5Name(b
5Owner
:s(b
5Payout
;(a
6ool
5Refund$s(ba
Da
7move(bc
;Role(bc
;TrustedCurrency&(b
7setEmail(bc
:Lottery
7trieve&Config
K2
K3
5SealBallot(i
7ndMoneyToUser(ba
9$s(ba
Ba
9World=
7tAdmin(b
8Block(aa
8City(b
<Data(bdaaaaaaaa
9onfig(bbb
8DefaultFee(aa
9iv(a
9uel(aa
8Enabled(f
8Market(bea
9ining(aaa
8RegisterCost(a
8WorldSnapshot(afaaaaaaaaa
6tatus(b
6um
7spendDeposit(f
5;(ba
?ba
=&=(a
=World=(a
5UpdMinSign(aa
8atePayout(aaaf
;Settings(bb
<tartEnd@(aa
;$(b
;|(b
<orldSnapshot
6srCount
5Ver
5|
6ithdraw
=(FJedd
>a
>babaedda
==
=Misc$s(ba
=$s(a
5_MinimalPayValue(aa
6account
8tive_dividend(b
=payable
=withdraw(b
Eable
7dd(b
9_modify(be
9ress
6commission_activated
6del(b
8posit(a
>mm
7ividend(a
?mm
6exFeeRate(a
6from_To_transfer(bba
6inactive_dividend(b
?payable
?withdraw(b
Gable
7sPayable(f
8RequireData(f
8Withdrawable(f
6kill
6list
6member_isWithdraw(bf
6profit
9por~
6renewLocked!(ba
6setAdmin(bf
9_Apply_Store_Id_Fee(b
:ExchangeRateInWei(a
:deposit(b
;ividend(bf
:exchange_rate(a
Hh
:isRequireData(f
:min_pay(a
:payable(f
:shopStore^(a
CRegister(b
:withdraw(bf
Bable(f
6tokenAdd(a
;Burn(a
;_add(a
<burn(a
7ransfer(ba
@ba
>From(bba
>_tempLock!(baa
7ypeOf(b
6wallet
7ithdraw(a
@a
>_all(b
5address(a
5ed
6r
5istrate(a
;ion(acaab
>&Frozen
;or
=(b
=s(b
?d
>Length
5list(b
5s
6(a
7b
6Addr(a
6DisabledForever
6ForIndex(a
6hipLevel(be
5todisableambastage(d
4ss_1(bba
72(bba
73(bba
74(bba
75(bba
2opt(a
5Axies(aaab
5ionOffers(D
8Requests(D
2s(a
2vBty|
3Send(baj
3anceEnd@(a
7State
9ep
7dThreshold
9okensPerEth
3entureBy$(baaall
9&
9Handler
9Item
9Presale
4rtisements(a
9r=s(b
8ingDeposit(a
;Use(aa
3iser(a
7AndBounty
7Part
7Sold
8upply
7|
7s
8(a
8Addr
9lloca~
8Cliff
8Partners
9eriod?
>Length
>sNumber
8Reserve
8$@lock
:tal
8Unvested
5or
71Sum
72Sum
73Sum
7Account
8ddress
8llocated@
>ion
8mount
7Count
8ut
7Fee
8irstLock@
7Lock
7Pool
7Reserve
7SecondLock@
8upply
7@Lock
8oken|
<s
9tal
7Vesting(gh
7|
7s
8(a
9b
8Account
9ddress
9llocated?
?ion
B$Send(ba
9ndAmbassadors!
;PreICO
8=
?Map(b
8Cliff
8Key
8Lock
8Period?
>Length
>sNumber
8Released
8Supply
8$?
=|
=s
>!
>FirstRelease@
>Holder
>Lock
>Percent
>SecondRelease@
>ThirdRelease@
>Vault
>|
:tal
8UnlockedAfterCliff
8Vesting
8|
8_address
9wallet
8et
7y
8BoardFundManager
8Eth|
8Pool
8Reserve$s
EDistributed
8Supply
>Remaining
8$s
:talSupply
8VUPDestina~
8|
9ithdraw
3teamPool
1elfCommunityMultisig
4DevMultisig
1ffAddr_
3Percent_
3|
3ectedCount
3iliatThreshold1
A2
A3
A4
8e
9!es(a
9BonusPercent
9Codes(b
;mmision(b
;ntract
9End(b
9Fee
9Level
:ist
=(a
9Name(b
:etwork
9Percent
@age
:rogram
@|!
9Rate(a
9Start(b
9Tree
9Utility
9d(b
9s(b
:!
;lloc!
?a~
4rma~s
2terCallBack
6rowdSale
:sale!
5Execute(b
5FirstRefundRoundFundsReleaseDenominator
QNumerator
6orkBlockNumber
9Rescue&=
5Ico(a
5STEDistributed
6aleMinting(a
6oftCapDura~
5;(lllla
5VoteNoCashBack@
1gTech|
2ainst
7_ban_of(b
8proposal
4snt_votes
2ency
6Of(b
7wner
6Receiver
4daOf(b
4t
5Addr_
9ess
6pproval(ba
5Books(b
5MakeOrder(bbaab
5Permission(b
5s(b
2giungiFrase(c
8Msg(c
3regate
2ing=Of(ba
5@
9ByStage(a
9s(a
2onValues(a
2ree(a
7b
5ToTrade(b
5d(a
5mentOwners(b
9SignedAtBlock(b
9s(a
;d
2tAtnReceived
1hs
1idPool$s
7|
3rop(g
8a
2fiAssets(a
2meIncreasePerTrip
2r
3?
3Begintime
3CountOf(b
3Deliver(ba
:Multi(ga
:Standalone(gh
4rop
7(b
9a
9ba
:gafb
;h
9gh
9hg
8g
9a
9h
7Account(b
8mount
7Blacklist(b
7Coin(a
8ustom(gh
7Destina~s(b
7Finished
7Height
7Join(d
7Manager
8embers(b
8ultiple(gh
??(gh
?Same(ga
7Num
:ber
7One(ba
7PayableMoney
>Tag
8ercent
>_
8ool_
9t_
7Same(ga
8etup(bia
8hadowMoney
=Tag
8ingle?(ga
8tage
7ToOld$Holders(g
9ken
<(ba
<Destroy
<Enabled
<IssuedTotal
<s
=(ga
9talSupply
8racker_
7Values(bgh
7_(bga
7sClaimed
3Endtime
3Lift^
5mitCount
3Sender
4wap
3aSend(bba
4;(bba
3dopped(b
4rop
7(ag
8b
9a
9ga
:h
8cg
8edd
8g
9a
:aa
:e
9h
:e
72(ga
7Active
8ddress
9mins(b
8llowed
8mount
=(a
=s(gh
8ndBurn
:Vault
7BSupply
8alance
9tch;(ga
7Claimed(b
8onjured
9oldownEnd
9unt
<Limit1
A2
8urrentTotal
7Diff(hg
9stributed$s?
8one?Map(b
;List(a
7End
8xecute(bga
7Finished
8orGenesisUsers(g
7GW
7HasExpired(ba
7Individual(ghaa
7Limit
7MDL(ga
8VP(ga
8anually(ba
8inting(gh
8ultiple(g
7Num
:1
:2
7Of(b
7Participants
8ool
7Qty
7RecipientCount
@s(a
:ord(b
9serve
9ward
7SEEDSinWei(ga
8ame?(ga
8ingle?(ba
8pent
8tatus
8upply
=Map(b
7TesterFinal(ga
8ime
8o!es(ga
;resses(ga
9ken
<(gh
<s
=(ba
@a
?gf
>g
?a
=Batch(gh
9tal(b
<Qty
<Supply
7Value
7|
=5Pct
8in@
9th?(ga
7_auto(b
8cnt
8percent
8wallet
7add
7er
7ped
:(b
:?
:$s(ba
:Users(b
9r
:(ga
:Blacklist(b
7s(a
9b
8Count
8$s(gh
7token
9tal
2urExchangeOracle
2x
1larmRaised(a
5s(a
2bos!
5|
2chemy(a
2ertCreators(a
2fatokenFee
9team
2gos(a
5ByCreator(ba
2ias_price
3ceClaimsDeposit(daabbr
Ebbr
;Payment(daabbj
Ebbrj
Edbb
3enDeposits(b
3ve
2l(a
3Accounts
4ging@sAdded
5reements(a
4llowancesForManyAccounts(gbg
4mountRaised
4ssetsOf(b
3=s
;(bbg
=g
;ForManyAccounts(gg
;Of(b
4ittings(aa
4lockCoordinates(a
4onus(ba
5unty!es(a
4yAuthor(ba
3Cards(a
6sFinished(a
7Info
5sinos(a
5tsAssigned
4ontacts(b
4rowdSale$s
3Data
4ecimals
3Eth
6Shares
6er
3Factories
4ilmsInfo(a
5nalised
4orPopulate(a
4undingProcessed
:Users(a
7sCanBeUnlocked
3Games(a
4uGiven_
3HashTypes(a
3InitialOwnersAssigned
5vestments
4tems(aa
8ForSale
3Keys
3MaskGu_
4ilk
5ned$s(a
4ultitokens
3Of(a
6b
5feringPercentage
;Quota
;Supply
4ldUsers(a
4penTrades?s
6ra~s(a
=Count
4wner(a
8s(a
:b
9Map(b
3Participants(a
4iranhasInfo(a
4layCount
7er$&s
9s(a
4olls
4roductIds(a
6mo~s(a
4unksAssigned
5rchasedSprites(a
3ReceivedEth
5ferer$s
5vealed
5wPaid
3SaleCompleted
4camsForSale
4et
4hare(aa
4idesPledged?
5gners(a
4tarIndexToApproved(a
>Owner(a
7t
6tes
5op
4upply
3Tasks(a
8Count
4ime
7Discount(a
4oken
8!
8ICO
9ds
8OwnerOnStart
8s
9Decimals=s
IWeights
9Index(a
5talSupply
3UnKycedEth
3WETHbalances(bg
4agered
5lletConfig(a
4eights
4on
5rkers
3_horses(a
4referrals_count_by_address(b
4team_accounts
4unfreeze
3ergies(b
6y(c
3ies&
3oc
5LastTxRewardByHand
5ToMember(ba
5ate
8(b
:<int64>
:a
;aca
;e
:ba
:qa
9gh
81Project$
82Project$
83Project$
84Project$
85Project$
86Project$
87Project$
88Project$
8Advisor$s(ball
Fgh
9gents(b
9llUnsold$s(b
9ngel$s(ba
=WheelFinance$(gh
8=(ab
9ounty
>AndEcosystem$s
9ulk$s(gh
8Candy$(gh
9oins(gh
:mmunity$(gh
:ntributors$
:rporate$(ba
9rea~Investmenting$(gh
8Delayed$s(ba
9ividendsToWinners(agh
8ETH(f
9coFund$(gh
;system$s
9ndBlock
;@
9qual(ga
9ther(ab
9xtra$s(b
8ForRefund
:unda~$
=er$s
9und$
8Initial=s(goh
:ternal|s
:vestors
8Led$s
9iquid(ba
9ocked(ba
:yaltySpend(a
8Market_Communit$s
>ing$s(ba
8Normal@Mints(baaaa
8Owner$s
8PVT_Inv$s(gh
9reICO$s
;sale$s(ba
Haa
Hll
Jff
Gcac
:ivate$(gh
:oof$s
C(a
8Remaining$s
G(b
:serveAndFounder$s
?Company$s
?$s
?d$s(ba
;tOf$s
<ricted$To(ddda
IPartner(dda
8Sales$s(ba
9ervus$s
9hares(aa
@b
?ba
9tartBlock
:rategic$s
9upply
8TeamAndPartner$s(bb
<Bonus(blll
<$
As
9icket(abc
>s(a
9oCrowdsalePurchaser(ba
:EarlyContributor(ba
:MarketingSupporter(ba
:ken
=(ba
@a
>ghh
=ForAdvisor(ba
@Team(ba
=s
>(b
@a
Aa
Ba
Ab
@qa
?eba
Ba
?g
@h
>BeforeOffering(ba
>ForAdvisor
AFounder
ATeam
>ToInvestors(ba
@Many(gh
@TeamAndProjects(ba
:pup$(baa
8UnclaimedFees
:sold$s
8Vestable(baaa
<ed$s(baa
8d
9(b
912Months
:8Months
:Year
924Months
:Year
93Year
94Year
96Months
9!es(a
9=
@s(b
:onus
9Eth
9Founders
9GooResearchSnapshots(a
9JadeResearchSnapshots(a
9Stage
9$
>s
?(b
Aa
;tal
8nonCS$s(ba
7ion
:(b
:!
AICO
AList(a
APreICO
AesTypes(d
;mount(a
:Finished
;orESCBbyStage
:Of(b
:Pool
:s(a
<b
=a
;1(b
;2(b
;3(b
;Index(a
=itialised
;Length
<ocked
;Over@(a
;Total(b
7or!
4w(b
7a
7e
6dcbf
5Account(bf
6ddress(b
>f
6irdrop
6lloca~(bf
6pprovee(bf
6uditor(b
6vatarCrea~
5Back
6locking(bb
6urns
7y
8ing
5Change
;^
6laim(b
:ing
6ontribu~
7untry(ef
6rowdsale!(b
5Default$(bf
7legate
6irectDebit
7sbursePaymentWhenPaused
6raw
5EmployeeMigra~(bb
6scrow(f
6veryone
6xchanger(b
5FreezeBypass(b
:ing(b
5IcoExit(f
6nvest(bb
;ment
;or(b
6ssua
5Manager
8uallyBurn$s
=Mint$s
6igrate
7nt(ba
9er(b
9ing
6ove$s
6ultiple(ge
5NorthPoleMinting
5Owner
5^Update
6ublic;
;Withdraw
5Receiver(b
8overy
7fund
;(b
;ing(f
;s
5Sale
6ell
9ing
6tart
5ToBurn(b
7Lock(b
7WithdrawFromReserve
7kenOpera~s(b
:;
B(b
7talMint?
6rading
8nsac~(bba
@s
:fer
=(b
?b
@baj
?f
=BetweenUsers
=For(bf
>rom(b
=Global
=Ownership(f
=@
Astamp
>oken
=Whitelist
=s
>(f
?g
>Enabled(f
>To(b
=t
5Upgrades
;ing(f
5WhiteList
6orker(b
;ToContribute(bbb
;sToContribute(bgb
5_contribu~s
6refunds
5ance
9(<>b
;DRCTLibrary.$Storage storage>bb
;ERC20Lib.$Storage storage>bb
;$Lib.$Storage storage>bb
:abb
:b
;a
;b
<b
<d
;dbb
:dd
9Add(ba
9=
:yLegacy(bb
9Eliminate(bb
9Flower(bb
:or&(b
:romProxy(bbb
9Item(aaab
=s(bba
9Of(b
=b
9Provider
<xyAccess(b
9Sub(ba
<Id(baa
9ToBurn(bb
:ransfer
A(bb
9s
:(a
;b
<b
5eRefund
6d
7(b
9a
9b
:a
9dbs
7Account
>(b
8ddr
;ess
>(b
>es(b
@Of(b
9resses(b
8irDrop$s
8mountTo;ToPool
>ransferedToPoolTotal
7Bet?
8uy
7&s(b
9untries(a
7ForWithdrawn
:wards
?(d
@i
7Gas^
7Jurisdic~s(d
7Locks(a
7Minting
8ultivests(b
7OracleChangePercent
7PaymentMethod(e
7Receiver(b
:ipients(b
9fund
9ward$s
8oles(e
7Senders(a
8ince
<Readable
8penders
?(b
7ToBeSold
:locking(bb
:uyBack
9Purchase
9Spend(bb
9Upgrade
9kens(a
>b
8ransfer(a
@b
?DuringICO(a
?From(b
?To(b
?|
?s(b
7Withdraw
7_approvees(b
8contract
6r
6xternal&(baf
5ingClaimBTC
5nce(bb
5sAllowance
6NewGames
6Signup
3stocksFund
2oha
3ttMainSale$(g
5$sExchange(ba
2pha
2readyAutoAirdrop?
7Claimed
7Harvested$s
7MintedOnce
7Participated(b
9yed(d
=l
7Received(b
9funded(b
9gisteredMessage
9leased?
9servedForTeam
7Sold
7Used(b
;Votes(b
7Withdraw(ab
@b
?n
2s$
2t
3Capitaliza~
4reate$s(ba
3Deposit(bb
:ed(b
:s
3List(a
3_buyCollectible(aa
3arCut
5Fund
5Records(a
3erBank=(baf
5CreatePeti~Fee(a
5DividendCooldown(a
5FeaturePeti~Fee(a
<dLength(a
5GiveKarmaFee(a
5Initial^PerShare(a
5PeerToPeerMarketplaceTransac~Fee(a
5$Grant(ba
5native
;_Exchanges_links
1mIBeneficiary(b
3Owner
3in
2bassador!
AOf(b
:Ledger(b
:Mode
:s(b
;MaxPremine(b
;Premined(b
>requisite(b
3iC
4x
2endAgreement(c
6mount(eee
5Claim(eee
>e
5EarlyPurchase(abaa
6ntry(adddqAqdd
6poch(a
5Fee(a
5Lock(aa
5Purchase(abaaaca
5Reten~(aa
?e
@e
5edEarlyPurchaseIndexes
K(a
Ds
E(a
7OrigPurchases(a
2irShaikh
2ounRefferalWon
5t
6(d
61
62
63
64
65
70kUsdInCents
7kUsdInCents
6AlreadyPaidBack
7vailable
?ToCashout
AWithdraw
6Bets
7onusEnabled
;es(a
7urned
6Claimed
7ollected
8ntributed(b
ABy(b
6Deposited
6EthRaised
6Filled(<address[4]>2
=babaaab
Dedd
8rst
8xed
7orBonus
9RefundIfSoftCapNotReached
9Sale
7undAirdrop
:Bounty
:Holder
:Platform
:Team
:ed(dcb
@b
6Goal
6IAmOwed
7n&
8vested
6Jurors(a
6Left
7ocked
<InVestings
6MintPerDura~
6NeedToBeLock
6Of
8(a
9b
8BRAsold
9STRequired(b
9agTypes
;s
9ets
9ooked(b
8DividendsPayouts
8EthersOwnerCanWithdraw
8Games
8Holders
8Investments
9tem
8Lovers
8MeatInUnicorn
8Owners
8Participants
9erRelease
8Redemp~Payouts
:gisters
8$s
>PerEther
?oolA
BB
BC
BD
8UBOsold
7wed(b
:ForApiForBuyer(ab
6Paid(b
7erDay
9Release
9Tick
9centage(aa
7ower
7ropor~
7urchasedWithDecimals
6Raised
<Eth
<ICO
=nEth
>$(a
>Usd
ACents
>Wei
=sc
<Phase
=reSale
<USD
7eceived(a
8funded
8leased
8maining
8served
>Refs$s
>$s
7ised
6Second
8llForOneEth
7lices(a
<Count
7oldPerPeriod
6ToBeneficiary
8Create
8Distribute
8Pay
8RaiseInUsdCents
8Send
8;
8WithdrawOnDate(a
8ken
;Issued
;sPerEth
8tal
6Wagered
7on
9(b
6_bonus
7direct
7investments
7milestone
7referral_invest
7stages
6ofp3d
6s(a
8b
7ByCurrency(a
7Records(b
7Withdrew(b
6won
4t
2tFunded(b
1nOfferWeCantRefuse
2aco&
3ilNathrachOrthaBhaisIsBeathaDoChealDeanaimh(gh
2chorGas^
6s(d
2gel!
7min!
6lloca~
6mountRemaining
5Burn(ba
5CardData&
9SeriesCollec~(e
6ollec~(l
6urrent?
5ExchangeRate
5Founda~!
?ShareDenominator
DNumerator
5Goal
5Investors
>$s
>|
5LockingPeriod
5Max?
5OnBattleboards(l
7Leaderboard(l
Bs(l
5Pool
5Rate
6ound
5Saled
9s(ba
6tart@
6upply
5@
9Lock
6oken
:Supply
5WheelFinanceSupply
@ing
5sClaimedCardboard(l
=Zeronium(l
6DayCooldownEnd
6_lock_days
2imator
8!
4ecardPrev^(a
9ToApproved(a
;Owner(a
;^(a
2nounce(aaa
9c
9d
8Fork(cca
8MatchResult(ae
8Winner(ba
?e
>Manually(a
8_numbers(eeeeid
9therand(id
8d
9@Stamp
8ment
3ualInterest
6ManagementFee
6Pos
7rice
6_circulating_supply
4l(b
5Certificate(bb
2otherDragon(b
7Owner
<1
<2
2swer
6s(ab
2te
3iques
8(d
2yAssetHasChanges
3$Withdrawal(ba
3_customer_payments_yet
3oneEndICO
1otLength
1p(b
2i
3AccessDisabled
4ddress
3Calls&!
3Registry&!
3Url
3s(a
2olloSpecial;(ba
2p
3Accounts(a
;Length
3Fund
7Deposit
3Hub
3Id
3Nickname
;s(a
<32(a
3Set
3|
5sMade(d
3_address
4instances(da
4storage
3eal(aj
7d
6Cost(aj
6Posi~(b
6Skip
6s(ba
4nd(<!List.Data storage>b
Rb
8Data>b
>b
6Array(pe
6DecryptedBid(aaabaaa
Bs(hhhghhh
6EarlyPurchase(baa
7ncryptedBid(da
6Only
6^Points(3
6Source(gh
7tock(a
8ring(c
6ToDistribu~List(cbae
6UintToString(ca
6VestingEntry(baa
3lauseCashCrowdsale
4icableRate
7nts(a
7~NameTaken(c
;s(a
=b
5edPresale
4y(c
6dac
5Affiliate(baa
6ndLockSettings
6uditorsCheckUpdate(bba
5Bonus(a
7oster(aa
5Censorship(a
5FadeoutToOp~s(iiiaa
6orTask(a
9oken
=OneDay
5KarmaDiff(by
5List(bb
5MC
6igrate(a
5Presale
5Redenomina~
6untimeUpdate(bbaa
5Settings(<SettingStateValue>aaaa
Uaaaaaa
>eaaaa
Caa
Eaaaa
5$(b
:s(ba
5Wait
6ithdraw(ba
3oint(b
9c
7Administrator(b
8gent(b
7NewCFO(b
3recia~Rate
@Wei
<Step
4opriate(a
5val
8(bb
;a
8Fallback(baj
8s(b
;b
6e
7(<>a
9DRCTLibrary.$Storage storage>ba
9ERC20Lib.$Storage storage>ba
9$Lib.$Storage storage>ba
8Eba
8Qba
8a
9b
:a
8b
9a
:a
:b
:c
:d
:j
;c
9ba
9c
9d
:f
9e
:e
9i
9m
8ce
8da
9da
8j
7Account(bf
8ddOwnerRequest
:ReserveData(a
:$
?Data(a
:ress(b
8lgo
9l(b
<h
:AndCall(bj
:oca~(b
Cb
8mount(aba
=AndSetFirstUse@(abaa
8ndAuc~(aaaa
:Call(<ERC20Lib.$Storage storage>baj
?Ebaj
Abaj
?aj
?ba
Aaj
Abdaaa
Aj
Bc
@baj
Abaaaajj
Cj
@ij
@mj
?jbbbaaaaj
>1(baj
>As&(baj
>N(baa
>PreSigned(jbajaa
>ViaSignature(bbajaaaje
Pbaaje
>code(baj
;ustomCall(bajs
:Do(babdc
:Payout(k
:Sell(aa
8sInvestor(bm
8uthority(b
7=sWaitingKYC(g
9tch(g
>h
8ounty;(b
Gb
8reeding(bt
8urnDelegate(b
8y!(bba
9Legacy(bba
7CallGas
8hange(<$Lib.$Storage storage>baf
>baf
=Owner(a
8odeUpgrade(b
9mpanyAlloca~(b
;letedMilestone(a
8rowdsale(b
7Data(baj
8eal(d
9liverable(d
8isband
9vidends(a
7ERC(bba
8liminate(ba
8scrow(qbba
7FST(ba
8actory&(bf
8ee
8lower(ba
8or(bba
:All(a
:Burn(ba
:GeneLab(a
8romProxy(bba
7Indexed(ba
>By!(bba
9vestor(b
?sInBulk(g
7KNCRateRange(a
8YC(b
8yc(g
7Less(ba
8oan(a
;Identifier(d
7Many(bh
<g
=h
9ppingProposal(b
8ember(b
8igra~(a
9nt(a
<ba
;Delegate(b
;Locked(ba
;$s(ba
;ingManager(b
8oderatorship
9re(ba
9~(a
8ultiple(bh
?Users(g
7NewMintRequest
:OwnersCount
9xtOwner(b
7Only
8rder_(<address[7]><uint256[9]>eeeejjjf
JLeeejjjf
8wner;(d
<ship
7Pack(b
9rtnerAlloca~(b
9useChange(f
9yment(a
8endingCostume(a
8reSigned(baaaej
Ajbaaa
@Check(bbaaaej
@Hashing(bbaaa
:sale(b
9oposal(a
:xy(bbaedd
Cc
7RemoveOwnerRequest
I2
8obot(ba
7Set$ControlInfo
8hutdown(a
8ingleUser(b
9ring(ba
8penderDecimal?(ba
>s
8ubmission(bb
7TaxData(a
8oMint(a
9PullOut$s(bba
9Sell(a
9ken(ba
>ba
<Collec~(bba
>ntrolInfo(a
<;(bba
<s(bba
=WithSignature(bbbaaaaj
8ransfer(a
Ab
@ba
?Manager(b
8x(e
7User(b
=d
;KYC(b
>AndSetReferrer(bb
;s(g
7ValidDura~Data(a
8ersion(b
8iaProxy(bba
:Signature(bbaaaaje
Hbaaje
7|FeeData(a
8ithData(baj
;Index(baa
;draw(a
@bb
?!
F(bbf
?al(ba
7_coin(cf
8fixed(baa
8unwanted_tokens(bba
7d(a
9b
:abj
8Account(b
Af
9ddressInLUT(a
?LUT(a
?Size
?es(b
9mount(ab
?b
8Buyer(b
=ForIndex(a
8&s
A(b
8DividendsOf(b
8Factories
A(b
9or(a
8OfItem(a
9rders(d
8RewardSources(b
8Submissions(a
8Till
9oLaunch(d
:;(a
:ken(baj
=s(b
8User
8|
9ithdraw!es(d
7r
8s(a
3s(b
4tore_share
2rMintAdjustment
3obarMensaje(aec
4veLoan(a
2t
1quaman
4riumCost
1ragonDevMultisig
3w|
2bLocked(b
3$Exists(a
4rade(ghpo
3Yes(abaca
3iter
7(b
7AcceptCount
7List(a
7s(b
5rateApproveMilestone(a
9C4F&(be
Ee
:ancelCampaign
8ion(a
;Cost(j
?s
;FeePerJuror
;|
;_bounties(d
8or
:ExtraData
:_ques~_fees(b
2c$
3hiveText(c
3ona$
2eAll=Null(d
6$sRegistered(g
3FundsReleasedToBeneficiary
Cudget
3Reserved$sDistributed
3$sDistributedFor!(b
9Sended
:old
9Unlocked
3as(a
3na&
2gCurMax
3ue(ej
4mentCount
8Posi~(a
8Source(a
8VoteCount(a
8s(a
2iseWarrior(aba
2kData(a
2myAircraftCarriersCount(a
4CountBattlesLost(a
@Won(a
4DronesCount(a
4HelicoptersCount(a
4PlanesCount(a
4SatelitesCount(a
5ubmarinesCount(a
4TanksCount(a
2pDeposited
3$
2r
3Investors(a
3angeUnsold$s(ba
4yAirDropReceivers(a
5InfoForDeposit(a
5Length
6imit
5OfAccountsThatHaveClaimed
N(a
7Clones(b
7NonTrivialAccounts
I(a
7$sBy!(b
3int(a
3str(a
2tExists(c
3WorkChangeApprove(aaf
=ByAdmin(aca
=Request(acedd
Ds(a
3ist
6Fees
6ManifestoFund!
6sArtworkCount
C(b
>s
?(ba
3sCreatedCount
3work&
9unt
7IdToOwner(a
;;Approved(a
8ndex
<(a
<ToApproved(a
>Owner(a
7Register
?(b
7SaleCount
7s
8(a
8Factory
?(b
1scendOrderList(ead
2ide$sHaveBeenMinted
;MintDate
2k
3(a
4b
5aaa
4jjbabaadj
3ForALoan(baa
6Ether(a
6giveness(c
3Hash
3Ques~(acbiia
3ing^(a
3s(a
4Index(i
2m_clean(aa
2sApprovals(a
3InAuc~(a
3ToAllApprovals(a
5Owner(a
3emblIndexToOwner(a
7eUnicorn
4rt(bb
7f
6=s
6Equals(aa
6Fact(ac
6IsNotBetter^(ead
;Worse^(ead
8Whitelisted(b
4s(a
4t
5Array
:(a
5ByIndex(ba
5Count(b
5Data(a
5ID
6dCurrentTripStart@Mapping(i
7NumberOfTripsMapping(i
7ToStarVisitedMapping(i
6nfo(a
9rma~(b
6sRegistered(b
5Level(k
5Meta
8hodIsAllowed(bs
6oveInforma~(bb
5Name
5Of(b
6wner
:Added(dbb
:Removed(dbb
:sIndexes
5Proxy
5Size
5ToStats(ka
7ken
:s(a
6ransfer(ba
6ype
9SaleCount(a
=s$Id(aa
5s(a
7d
6Certified
7ount(b
6Of(b
7nDeposit
6To^s(b
3ign(aa
7b
8a
9f
7kba
6Agent(b
7ll
7notherOwner(b
B1(b
B2(b
7theniansToBattle(a
6Bank(b
7ounty(ba
<!es(g
<$s(ba
7urner(b
6CEO(b
6Founda~Supply(b
7reeReadings(be
8om(bb
7undReceiver(ba
6Genesis!es(g
=Caller!(b
6ImmortalsToBattle(a
7nitial!es(g
=Days(baa
6Management(b
7ediator(b
7inter(b
7ultipleParcels(BBb
6NewParcel(mmb
Cc
:lanet(baaaccc
6Operator(b
7wner(bb
<gab
6PersiansToBattle(a
7reico$s
6Referral(bb
8serveSupply(b
=d(bea
9ourceChecksumPair(aa
8venue(a
=&
7ole(bdb
:WithExpira~(bdba
6Share$s(a
;dOwnership(ba
7partansToBattle(a
7ubBroker(ab
6Team$s
7oBeneficiary(ba
8EarlyBirds(ga
8ken(b
=a
;&(b
;IJK(ba
;s(ba
=gh
<ToMultipleInvestors(gh
6User|(cb
6ed?ToAngelInvestment
@CooperativePartner
BrnerstoneInvestment
@DevelopmentTeam
@EcoReward
@MarketExpand
@PrivateEquityFund
@TheFounda~
8=
8Doublr&
8Supply
8_bids
9shares
7r
6mentsClosed
4ngAdminship(be
4stant
3ociated!es(a
:&
:Pubkeys(a
3uranvePayments(b
5eDAppIsReady
2trSold
4oIDPool
6ndexToOwners(a
5OwnerToIDIndex(ba
>s(ba
?Len(b
2yncSend(b
;a
<a
;ba
1t(a
2FundDeposit
2LastUnclaimedFeeAlloca~
2Now
2henians
3lete
7AlreadyClaimed
7CanClaimPercent
7IdToApproved(a
;Owner(a
8ndexToApproved(a
>Owner(a
2l
3eastZero(m
2m$
2nSent
2omOwner(a
4$
4icMatch_(<address[14]><uint256[14]><uint8[6]>jjjjjj<uint8[2]><bytes32[5]>
T8]><uint8[8]>jjjjjj<uint8[2]><bytes32[5]>
6ize(ghhj
6swaps(d
6xSupply
4s(a
2t
3Controller
3ach(<=Holder>
8Presale>
7b
6Asset(a
6&s(bbbbb
7rowdsale(bb
6PreOrder(b
9sale(bb
6Subscrip~Module(b
6Ticker(b
7o$(b
8ken(b
6edSystemActive
5k
6(a
8a
9U
9b
9h
9j
7b
8da
8e
7ee<uint16[6]><uint16[6]>
6Cooldown(b
8untry(e
6IdToInfo(d
7sland(aa
6Monster(a
6Player(b
7rizeRatio(b
6Tile(bkaf
?f
:ForExistingUser(kaf
Mf
=NewUser(kdjddb
7rainer(eeeei<uint16[6]>
6eePrizeBy$(db
7r
8PrizeBy$(db
6hill(a
3emptBeginLoanAtIndex(a
7ToClaimCard(bF
7s
8(a
4nd(a
7edde
7ic
6ants(b
4st(a
3o
3rUUID(ba
4actMeteorites(baa
4ibuteType(a
9s
1uc~
7(a
7!
8rray(a
7Bonus(a
8yAssetId(a
7Cancel(a
8ontract
8reated(aaa
7Dura~
7End
:(a
:^
:@
>(a
:ed(a
:s(c
8xpired
7Fee
8inalized
7IdToSeller(a
8ndex
<(ba
7Length
7Manager
7Name
7ObjOf(b
8wner(a
7Pause
<d
8riceLimit
7Size
8tart
<ed
>(c
<s(bb
8uccessBonus
9mGwei
:Plat
7Tank(aaaa
7Unpause
7WinnerMessageHash
7_start_time
7edAssId(a
9Eth
8er
:Cut
7leader
7s
8(a
9ba
8Enabled
8Of(b
8RunByUser(b
4orCount
4usPreSale!
6$!
6WhiteList!
2dit(<ChannelLibrary.Data storage>b
6b
6eea
5&
=(df
5NTVUText(eec
5Outcomes(d
5Report(baa
7quests(d
5Status
6upply
5Text(ec
6imeout
5ed
7&s(bd
7Text
5or
7!
7CanWithdrawStake(ab
8omment
9ntracts(ba
7HasStaked(ab
7Registry
7s(b
8List(a
5s(a
2gmintReserves
7$
2m
2sGroup
8Alloca~
8ReleaseDate
3group;(ba
2th(b
5c
4Call(bd
6ncel(b
4Proposals
4Votes(b
4enticate(aaa
=b
>aaa
=c
>j
=j
;ion(u
5r_user
4or
61
62
6Writes(bd
6ise(b
9Account(b
:ddress(b
9Maker(b
;nyAccounts(g
9NextAc~
9Sale(aaba
9d(b
:&
:Investors
:Minter
7ties(a
<b
8y
9!
9=
9&!
9Index(b
7za~s(b
@b
8e(b
;a
;f
:c
;b
9Account(b
:ddress(b
:mount(bi
9Casino(bbedd
:ontract(b
9Deploy(b
9Floor(ib
:orTier(ag
=oken(bb
9IcoBurn
9Kyc(g
9Many(<address[50]>
>ga
:int$
9Operator(b
Cf
9Payment(a
Abaa
Acbaa
Bdbaa
Dbaa
Adba
:rovider(b
9Spender(bf
9Transac~(ab
9Withdrawal
9d
:(b
<e
:!
:ByUser(bb
:Caller
;ount
;reate$s(ba
FToPrivate(ba
:Deploy(b
:ETH(b
:Loggers
A(b
=ic&!
:Payments
B(a
;ower
:Recipients(b
:Supply
:ToDrain(b
?w
<;(b
<kenUsers(bb
;ransfer(bba
:Users(b
:_changeOwnership(bba
<reateCard(aabb
;recordFailedOldOwner;(b
APlatformFee
AStashedPayout(a
;setCardPerkText(ac
;triggerStashedPayout;(a
;updateCardClaimer!(ab
EReserved1(ae
ASaleInfo(aa
9r
:!
:One
:Two
:s(a
6s(b
3oAirdrop?
4BirthFee
5uy(a
4Distribute
4Finish@
5reeze
4Match
4Pay
5reSaleSuccess(ba
6ice
4RefundCrowdsaleContributor(b
6ntByAtom(aa
4Send
5olveGame(aaa
4$Sent
5ransfer
<(ba
<Approved(aa
<Locked(aa
4_withdraw(b
4maticThreshold
9WithdrawLoop(aa
4nomousConverter
4payfee
4releaseInterval
;@
2xWorstPoints
1vailSupply
5able
9(a
:b
;b
9?
?(F2
@a
@b
?ToCollect(a
9=
@(b
@InLockingPeriodForInvestor(b
@Of(b
@s(b
:ountyCount
:uyInShares
9Commission
;unt
9DgxNg
9EarlyPlayerShares
:mission
9Faucet(b
:lg
:orWithdraw(b
Dal
F(b
FAt(a
:unds
9Havvens(b
9ICO
<_w1
>2
:ds(a
>a
:nventoryOf(a
9Now
9OnStage
9Percent(a
:onzi
;si~s
:reICO
;ivateICO
9Ref
<unds
;serve
;ward(b
9Supply
9Tags(ea
:hemedSpinners
:oMint
;kens
?(a
@b
??
?OnCurrentStage
?forPreICO
9Volume(<address[4]>2edd
@babaaabedd
?Enclaves(babaaabedd
@therDelta(babaaaba
9_shares
;lots
:tokens
:with_bonus
5ble$
3liableSupply
3rageBlock@
3tar
6Fee
6IndexToApproved(a
=Owner(a
6s(a
2entus
3rage(aa
7ArtworkSale^
7Block@
8uyIn^(b
7Gen0Sale^
7KimSale^
7MinerSale^
7Quality(a
7Sale^
8crap^
8old^
7@stamp
2gEtherBetValue
3Factor_ethSpent(b
3Gas(b
3Rate
3SalesToCount
3$BetValue
8WinValue
8lossValue
2t
1wailableDividends(b
4tingParticipants
:yout
8Rew(b
3rd
5(b
7a
8a
7c
6d
5?
;Prime
5=Of(be
6ronze(bbb
6yRndNo(a
5Cup(e
5DailyLottery(ba
5HighScore
5InfoOf(a
7va~(d
6temRafflePrize(ba
5MILsTo(ba
6issedBlockBonus(Obd
FPbd
5Name(e
5Prizes
5RafflePrize(ba
6eferalBonus
5Titanium(bbb
6okens
5UnitRafflePrize(ba
5WeeklyLottery(ba
5edReward(a
5prize(a
5s(aa
7e
6Count
6End
6Of(be
6Reserva~s
3yTeam
1xe
2iesAdopted(be
5^(aaa
5Rewarded(b
0b
121Team$s!
2bc$
132toHexString(d
1Test
1VideoCost
1ZRx$&
2x&!
3To0x&
1a2cbor(<bytes[]>
2bies(a
3yBornEndVoting(ca
4Makin^(a
5ommas(aa
3z=Of(b
2cFund
3k(ba
4AtIndex(aa
>a
4DARFtokenOwner
5evvoteOwner
4ETH(a
5ndOperator
5thRatio
4GamePlayerCoinOwner
4NewHopeOwner
4OrenCoinOwner
4ProjectXOwner
4RedPill$Owner
6siliumOwner
4SggCoinOwner
5kinCoinOwner
4TTCOwner
5ixOwner
5oOldOwner
6ken(ba
9ForRewards(a
5ransfer(ba
4VISTAcoinOwner
5enusCoinOwner
4WindowAdjustmentRatio
4end
7!
7&
7Operator
7|
8ithdraw(ba
5rList(a
6s
7(b
9a
7!es
@(a
7Index(a
7Redeemed
?(b
4ing$
4log
7?
7Length
4up
6!
6Owner
6_drawdown
?_amount(a
7exchangeEthStb(aa
?StaStb(aa
7finishIcoVars
7refund(aa
6farmItems(gh
2d$Of(b
3ge(a
5=Of(b
5Count
5Decimals
5Freeze(baa
5IfFreeze(b
5Ledger
5Name
5Symbol
5TotalSupply
6ransfer(ba
5UnFreeze
5_obj
5r?
6|
5sOf(b
2gTypes(a
3s(a
2keCookie(c
2l
3anc
6e
7(a
8b
9b
9e
8dc
:b
8u
71
72
73
7A
8ffiliateOf(b
8irDrop$(b
8pprovedFor$(bb
8t(ba
9Block(ba
9Snapshot
8vailable$s(b
7B
8onusOf(b
8yAd(b
9ID(a
:d(a
7Checked(b
7Details(b
7Eth(b
:Crowd(b
:Private(b
7Finney
8orReward
8rom$(a
:zen$s(b
7Haben(b
7ImportsComplete
8nLottery(ib
9Play
9SpecificTier(a
9Tier
9Wei
7List(a
8ocked(b
?b
;s(b
7Manager
9p
:(b
:Pos(b
8inusFeesOutstanding
7Of
9(<DRCTLibrary.$Storage storage>b
;ERC20Lib.$Storage storage>b
;$Lib.$Storage storage>b
:Qb
:a
;b
:b
;a
;b
;d
<b
;e
:cb
:d
92(bb
9At(ba
;Block(ba
9Basic(b
:uyer
>(b
:yLegacy(b
9Coin(b
;ntract
A(b
Cb
9Directory$(a
9ERC20(ab
:TH(b
:nvelopes
:th(b
<Fee
<er(b
9Flower(b
;urbo(b
:rozen(b
:und(b
9Holder(b
9Investor(b
:ssuer
?(b
9KyCToBeApproved(b
9Lock@(b
=ed(b
?1Y(b
?2Y(b
=up
?(b
;tteryNum(b
9Mine
:orty(b
9Old(b
:n
;ForHolder(b
DUpdate(ba
;Update(f
:re(b
:wner
>InVault(bb
9Players(b
:ot
:reSale(b
<tty(b
9Raws(b
:eadable(b
<l(b
:ick(b
:obots(b
;utingCode(d
9SPS
:tocksAt
9Target(b
:he&
;is
:oken(b
@a
@b
;talUnclaimedCookie
9USD(b
:nclaimed(b
;lock$s(b
?ed(b
9a(b
9me
8wed(b
7P(b
8reSale2
>3
>4
>5
9ivateSale
7SellingOf(b
8oll(b
7Team
8hreshold
8oken
<(b
<&
9tal
<Of(b
8ransferred(baj
9easury
7Unlocked(b
8ser(b
7WinPoolForSecondStage
AThirdStage
>ToTeam
@WinSystem
7_(b
8available_for_custom_voting
8wirthdraw
7from(b
7s
8(a
:b
9b
:a
:b
:d
:g
9d
9i
9q
81(a
82(a
83(a
84(a
86(a
8!Descrip~(b
JUpdate(c
9rr(a
8CanSell(b
;notSell(b
9ontract
9rowd(b
8DB
8ForICO(b
;Outcome(eb
;PreICO(b
;Withdraw(b
8Hold(b
8InCent(b
:$(b
:itialized
:ternal(b
8List!Map(a
<NumberMap(b
9ocked
>(ba
>1Y
@(b
>2Y
@(b
8Main(b
9inted(b
>ByType(ba
8Of(b
8Private(b
8Quantity
8Riskcoins
A(b
8Set
9oftCap(b
9taticoin
A(b
8Teams(a
9oken(b
8USD(b
9ploaded
8Wei(b
8_(b
9after_buy(b
:vailable_for_crowdsale
9bonus(b
9for_refund(b
:reez_one(b
?two(b
8s(a
6sHolder(b
3lShitClone(b
5perm(b
4anceTomatoes(b
4ot
6Details(i
6Encryp~Pubkey
@Seckey
6Fee
6IdToDetails(ba
6Log(ba
6Map(a
6Names(i
6Op~s(ii
6Started
6VoteCount(ii
:rs(ib
6Whitelist(b
6s(ba
3s(b
2n(a
4b
3!(b
4uditor(b
3Member(bc
3Proposal(bc
3Threshold
4oken(b
3User
7(b
3_user(b
3corChanger
7onverter!
?Factory
6DaiSmart$Relay
6ETH$
7rc20Eth
6Registry
6$
7rading&
3dwidthFactor
3k
4(b
41
5Val
42
5Val
4!
4=
4Confirm(ba
4Manager
5ultisig
4RollBeneficiary
4ValReserve
4Withdraw(ba
4er
6AllDeposit
6Begin@
6DepositPer
6End@
6masterReq
6sAcceptanceOfDeal
4roll
8Available
8Beneficiary?
8ExternalUpdate$s(aa
8LockedUntil
8edBy(b
9rTable
8s(b
5upt(g
3nable(b
4ed(b
6!es(b
6Cycles(a
6Participants(b
2rrier^
7Strength
2se
4?
4Comparable
4Data
5iscounts(aac
5ona~
4ETH=
5thCap
:Per!
5xchangeRate
4FeeDivisor
4Ico^
5ntCalc
4Number
4Payment
5rice
5ublicPlacement
6nish
4Rate
8InCents
5egistred(d
6ward$=Of(b
4Start@
7ts(a
;a
5ummon^
6pply
4TargetInWei
:Reached
5oken
9=(b
9CapPer!
9GetRate
9^
9sAllocated
:PerEther
:Sold
4URI
5nit
8(d
5rl
4Value
5erifierFee
4Whitelist(b
4_token
:_is_seeded
;seed_amount
4cost
4lineRate
4owner
4price
3icIncomeLimit
5PresaleRate
7icePerEth
5Rate
6eward
5Threshold
6okensPerEth
4sPointsRate
2t
3Fund
7Deposit
3ch(ga
7h
6hg
5Active
6dd!es(g
Ch
8CancelledOrFilled(o
8ToWhitelist(ag
Dg
8Whitelisted;(g
6irDrop(bga
8dropWithLock(gaf
6llocate(gh
=$sBeforeOffering(gh
6ngelSales(gh
6pprove(gh
=hb
<Whitelist(g
6sset;(bh
8ignStopped
;$s(ghG
Dh
Dp
;ment(gh
6ttachAssets(h
5BurnAssets(h
5CancelOrders(<address[5][]><uint256[6][]>h
;Sale(h
6hangeHoldPeriod(a
6laim(aa
6onfirmPayments(h
8vertIntoHtlc(oghhho
7unt
6reateAsset(phhhg
@Sale(hhhh
;ETHCardAsset(phhhg
;SingleSeedAuc~(pphhha
5DecreaseApproval(gh
7tachAssets(h
6istribute(ga
?Fees(ah
?Reward(gha
?With?(gh
6ouble=s(g
6rop(gh
5EarlyAngelSales(gh
6xchange(g
7ecuteOrder(<address[4][]><uint256[8][]><uint8[2][]><bytes32[4][]>
5FillOrKillOrders(<address[5][]><uint256[6][]>hpoo
;ders(<address[5][]><uint256[6][]>hfpoo
7shAquarium(hb
6reeze(gf
;Account(gf
5IncreaseApproval(gh
6ssue$s(a
5Limit
6ock(ga
9Array(gh
5Map(b
6int(gh
9Presale$s(gh
9$Direct(gh
>Presale(gh
6ount(bha
6ultiple?(gh
5OrderTrade(<uint8[2][]><bytes32[4][]><uint256[7][]><address[6][]>
[uint256[8][]><address[6][]>
5Presale(gh
<Vesting(ghhhhh
5ReclaimExpiredSwaps(do
7fund(gh
;zFixed(ga
7gular;(oo
Ds(oo
7lay(<bytes16[]>gghN<uint128[]>poop
8ease(gb
7solveAquarium(h
8toreWebGift(g
7turnEthIfFailed(a
;$s(a
AIfDisabled(a
CFailed(a
;UNT(a
5Safe;From(hbb
6earchProposalsId(o
7nd(ag
:b<uint160>h
9$s(gh
9WebGift$(ga
7tApprovalForAll(gf
8tleInvestments(h
6hare?(ghaaa
6ingle?(ga
6pawnAsset(bhha
@ghha
?WithCreator(ghhhg
6tart@s(a
6ubmit(g
;Ringhash(go
5$s;(bgh
6rade(<address[11][]><uint256[11][]><uint8[2][]><bytes32[2][]><bytes32[2][]>
8nsfer(ah
>bga
@h
>gU
?a
?ga
?h
@b
>ol
=1(ga
=2(g
@h
=Diff(gh
?rectory$(agh
=ETH(g
@S(gh
>ther(ga
Dh
BWithSame?(ga
=Fixed?(bga
>rom(bgh
Bhbb
AMany(gbh
EToMany(ggh
=Same(ga
>ingleValue(ga
=$(abbo
Cbbbeo
Eeo
Eo
Dga
Eh
Cg
BS(bgh
=Values(gh
=s(gh
8sfer(gaa
<ByValue(gh
5UnlockVested$s(g
7mount(bha
5VipWithLock(ghf
9tihLock(ghf
5WhiteListInvestors(g
6ithdraw(g
5_send(ga
6transfer(gh
5collecttaxes(aaaaaaaaaa
6reatevillage(a
5drop(gh
5es(ba
5limits
5transfer(gh
3lord!
7Req
3man
3tle(a
8a
7ha
7ll
7uDuD
6Add(a
6CardIdRange
7ontract
>!
ECanBeUpdated
8untOf
6Decider
6Fee
6Id
6Provider
6Remove(a
6ToFighterToBet(aa
ASize(aa
8Winner(a
6UnitIdRange
6boardData&
6s
7Owner
7TillBattleCooldown
1b(a
2Advisor|
3irdrop|
2=
2FounderCoreStaff|
2NetworkGrowth|
2PublicSale|
2Reserve|
2b
2d$
2odServiceRegistry
2wallet
1c(ab
2dcMultisig
2h
2n
1e
2ar$
3t(afe
4Game
4MartialOwner
4Team|
3uties(a
5yOwnershipCount(b
6ToApproved(a
8Owner(a
2comeAgent(aa
6Bankermaster
8tlord
7ullsmaster
6Coowner
6Duke(cc
6Fairymaster
8lconmaster
7riendsWithMe
6Hipstermaster
6King
6Norsefire
6Owlmaster
8ner
6Pacifistmaster
7ickleRick
7layer
6Richest
=(c
6ShitClonelord
7nailmaster
9kemaster
7permlord
8onsor
7quirrelmaster
6Turtlemaster
6YouTubemaster
2erAndHookersCap
2fore=Changes(b
6Execute(ba
=ForFutureBlockCall(<Call>ba
ULib.Call storage>ba
6;(lllla
2gin
5(d
5Block
5ClosingPeriod
6odeUpdate
7ntinuousSale
9rib
5Game
9(a
:bl
5Mo~(b
5PhaseTwo(a
6rojectRound(caa
6wn
5Reclaim
5Sell
5@
9TS
5s
2halfBet(baa
6er
2ingVIP
2llCounter
3ongsTo(ba
2n!
3Ready
3Took
3|
3ch;(gh
3ecifiary
4factor(a
:s(a
;=
5eciar
5icial
9ries
=(a
>b
=Length
=Percentage(gh
:s
;(b
:y
;(dm
;1
;2
;3
;!
Bes(b
<mounts(a
<ndBirth(dmd
;=
B(b
<ought(b
;&
;Funded(b
;Invest(b
;List
?(a
;Map(b
<ultiSig
CWithdraw
K(a
@sig
;Send
<take
;Two
;UserIds(a
;|
<ithdraw
;_
<modify(b
6t
7Funds
7Micros
7Percents
2stAngel
4Sum(p
4_gamer
5submission_accuracy
@index
4ow(dab
2t
3(a
5a
5b
5e
4baaa
4c
4e
5a
4f
4hb
4kd
31
4Of(a
4deltaOf(a
32
4Of(a
4deltaOf(a
3A
4Lenght
4dded(aaba
6ressArray(a
4gainstUser(aa
4mount
3B
4Lenght
4lockNumberOf(b
4yte
3Closed
4ondi~s
5unt
8ByCar(<RaceLib.Race storage>b
:Driver(<RaceLib.Race storage>b
3D
4eadlineBlock
3Events(a
:ba
3Fee
6Min
6PerMil
4inalize(ae
4reeGame(ae
5omGame(id
3Game(ae
3Hash
7Of(b
4igh
5story(ba
3Id
4nfo
7IsLocked
4sSettled
3Last@
4ock@
5w
3Make(ae
5pping(a
5tch(aa
9ee
8=s(aa
8Records(aab
5x?
4in?
3Number(a
3Of(b
4n(iiab
5ATeam(a
5Color(a
;f
<f
8umn(a
<e
<fff
;OrDozen(fff<BetTypes>
5Dozen(a
;e
;fff
5Fighter(a
5LowHigh(f
>f
5Number(a
<e
5OddEven(f
>f
4pen(acccc
=f
3Placed(ba
<a
4ool(b
4rice
8s(a
3Revealed(a
3Stage(ah
6tus(d
3To!(a
5Owner(a
5ken(b
3ValueOf(b
3WithCredits(l
7Round(ad
3_amount
4purchased
=(b
4this_spin
3a
3exStorage
3s
4(a
6a
5b
6a
5d
6a
4All(ii
5rePayed(ba
4CloseAt
5ountToUseFreeBet
4Keys
8(a
4Length
4Off(a
5nFighter(aa
4_total
3ter=(b
7ettingInfo(ba
6NumWinning(b
6s
7(a
4ing(a
9ea
7Allowed
7End
7Start
3ween(b
2yond
6(CC
1fex?(b
1gb_per_Keos
8eos
2x|
1hCheck
1id
3(a
5a
5b
5c
4b
5a
6a
7a
4c
5b
5c
4d
5<BookType>fS
5efS
4i
4jjbaaadj
4ka
5k
4t
3Auc~(a
3Batch(hb
3CC(ad
4ount
4ustomAuc~(aab
3EMONTIncrement
8Min
4RC20(aa
4THIncrement
6Min
4nd@
4xchange(aa
5pireBlockLength
3FeePercents
4romEtherScrolls(ab
3Hash
3Ids(a
4nAuc~
5crement
5fos(a
3Of(da
4nAuc~ToBuy(a
5BreedingAuc~(tt
DTutorial(t
5CraftAuc~(aa
5SaleAuc~(a
6iring(aaa
;Auc~(aa
5Wonder
3Proxy
3Referral(aa
6und(aa
3Spaceship(a
5read(dfS
4tart@
8Value
4uccess(aba
3$s(i
4ransfer(aba
3_threshold
3derPlaceBid
6Whitelist(a
6s
7(a
4ingClosed
7Period
7@
3failure
3oohAdmin!
3s
4(a
5b
6a
4Count
4Index(bi
4_burned(a
;_count
5computed_cursor
7unt
5decrypted(a
>_count
5ignored(a
<_count
=refunded
5sorted(a
;_count
<refunded
2g?
3Bang
4onusPercent
3Chicken
4ontribu~Bound
3^
3RoundMaxRoundNum
3$sPerEther
3bomMultiSig|
6$
3hype
2ll(a
4s(a
2nary
6!
3d(ec
4Certificate2|(bd
5ontract(b
4SmartIdentity(cc
AByRegulator(ccc
4$(bb
4ingSmartIdentity(d
7s(be
2oLock
3Unlock(dedd
2pedaljoe
2rth(a3
6d
5Block
:(a
:Threshold
:_
5Date(b
6ragon(a
5Kitty
5PerHundred
8Ten
5day
5er=s(b
2t(aa
3CrystalEscrow
3Guild&
3Registers(b
3Slice(aaa
3coin&
7Invest(baa
7PublicKey(a
7SaleRate
7_multisig_vault
8ratio
3e(aa
5d
3fwd$
3lumensDelivered
3mask_check(ba
3paintingStorage
4lus!
3sMask
3t$
3wordsCutOutof100
<verride(b
8Withdrawl!
3z$
2x$
1kaddress
1l
2ablabla
3ckBox
8!
5ERC20(b
923(b
5FridayEndBlock
6unds|
5Hole
5List
9(b
:i
9Active
9ERC20(b
=23(b
:nabled
9Freeze@
9Investor(bf
9Swithcer(b
9User(b
5MarketOffersMap(a
5jack(aab
9Value(e
5list
9(b
:d
9Account(b
Bf
:ddr(g
=ess(b
@es(b
Cg
9Investor(b
9Party(bf
9Switch
9UserFor;s(b
9_addys(g
9ed(b
:r
9ing(b
2each(nn
6Appearance(nn
6DailyLimit
6LastClear@(b
6^
3ss(ca
5ings
2ikedUntil(b
3nc
5_block
4d_sha256(cb
4k
5_block
2ksze
2npereth
2ock(b
50
62w
51
52
64h
53
54
55
56
5Account(b
<Funds(ba
6ddress(b
5BeforeChange
6yCounter(a
5Client(b
6rea~Rate
7owdsale
>(b
5Data(a
6elay
6iff
6uelBegin
7ra~
5EndICO
8ed
6xpira~
7ternal;
5Halving(a
7sh(a
6eaders(d
7ight
5IndexToApproved(a
<Owner(a
7terval
5Left
6ock
9Active
5MessagesFrom(b
6inedAt
5NewSpinnerPurchase(a
6ode(b
6um
8ber
;ForVictory
;Updated
5Offset(a
5PendingTx(a
7riod
5Reward
5Spending(b
6tart
8te
6ubsidy(a
5Threshold
6ime
6oOwner(a
7kens
;(b
=a
6ransfer
=(ba
=From(b
=ing
=s
6x(f
5Until
5V&Addr
6ersion
5Wait
6ithdrawBegin
5chainExchange(amd
5dif
5ed(a
8b
9b
7!(b
7=s(i
7&
7DeadLine
?(b
8ivisionJurisdic~s(d
7Sum
7TillSecondUnlock(b
9meForBounty$s
>Invested$s
7Until
7_amounts(b
7transfer(b
5hashOf(a
6eight
5ingDura~
5s
6(a
6BetweenNewCompany
7yDay
6Coordinates(aa
6Delay
6ForWei(a
6InADay
8FirstCapPeriod
8SecondCapPeriod
6Owners(a
6PerDay
:eal
9Hour
9Month
9PayPeriod
9Round
6Remaining
6SinceLastBid
6ToLive
8Vest
6quare
5time
3k
2t
3Master
9Acc
9ToSale
3Owned
8Acc
3Retained
;Acc
2ue
1mc(aab
3Platform
1nCheck
2Of(dd
2bContribu~s(b
3RefundEnabled
3$
8|
3WithdrawEnabled
2t
3Converter
3$
3yController
4Microdollar^
1oard
5(aee
5!
5Cost
5Member(a
;Apply(a
;Cancel
5$s!
5_size
5s
2bClaimsDeposit(daabbj
Cdbb
9Payment(daabbr
Cbbr
Fj
3MakesErc20Deposit(dabrb
Jl
=Payment(dabrb
Jl
9thDeposit(dbr
Fl
;Payment(dbr
Fl
2dyElementBySubtypeIndex(a
2mbs(e
2nd(ab
5b
4Holdings(b
3us
5(a
7gh
6b
51
60end
65end
6Ends
6StartETH
52
60end
6Ends
6StartETH
53
6Ends
5Account=s(b
<Count
<Index(a
6dd
8ress
<es(b
6fterPresale
6ll
8oc!
:a~
9wed
6mount
7tThreshold
6ndBounty$s
5=Of(b
<s(b
7sePoints
6y?
5CRS
6alcula~(a
@Factor
7p
8USD
7rds(a
:Claimed(b
6hange@
6laimed$s
7osing@0
@1
6ompaignOpen
6rea~Rate
5Date
6eadline
=Default
7creaseDay
7liver@
6icrement
7stribu~!
6ropsOf(b
5ETH
6nd
8Date
8@
<250
<333
8s
9(a
91
:0
:5
92
:0
93
94
95
:0
6xtra(b
5FirstIco
:TwoDays
APeriod
:Week
>Period
6orDate(a
8Everyone
8MainICO
8PreICO
7urthWeek
?Period
6reeLOT
5InPhase1
<2
<3
<4
<5
<6
8reSalePhase1
C2
7creasePercentage
7fo
7ited
5LOT
6evel0
;PercentModifier
:100
;PercentModifier
:s(a
6imit(a
:1
:2
:3
:4
:5
7ne
7st
9(a
:b
5Map(b
7tchPayoutInPercent
7x
6ilestones
7n
8Contribu~
6ode
6ultiplier
5Num
5Of(b
7Day(a
7f
6n
7e(a
6p~sPromille
6ver100ETH
;ETH
930ETH
:ETH
5Pattern(a
<s(a
6ctSteps(a
6er(a
8cent
<ForWei?(a
<age
?s(a
<s(a
8iod
;Dura~InHours
;s(a
8sent
6hase
:1
:2
:3
:OneDeadline
:ThreeDeadline
;woDeadline
6ool
7t
6reICO
9co
8sale
9et
7ice
:DeltaPerHour
7ogramEnded
8vider
5RangeCount
7te
9InPercent0
B1
9OneEth
9PeriodOne
?Two
:rivateSale
9s(a
;b
6eceived(b
7main
;ing
5Sale
6cheme
6econdIco
;Week
?Period
7ed
6hare
6ignalValue
7ze
6tage1
:2FirstDay
;SecondDay
:s(a
8rt
8te
7ep
7rategy
6ubscrip~
7pply
5Take
6hirdWeek
>Period
7reshold(a
>Wei
6icketsPercentage
7erSize
7me
9List(a
9s(b
6oken
:(gh
:RateLevelFour
COne
CThree
Dwo
:Threshold
:s
;(a
<b
=A
;Allocated
D(b
;Distributed
;Issued
;Left
;Percent
5UnlockAt
;@
?(b
7sold
6sers(a
5VestingPeriod
5|
6ei?
6indow1End@
;2End@
;3End@
5_
6amount
6for_add_stage
6percents(a
9iods(a
7rice
6received
5edPurchases
6s
7(a
8b
7AfterClose(a
7ByDates(a
7Count
7Dates(a
7For?sCount
:@sCount
7Given
7List(a
7MapPos(d
7Of(b
7Payed
7Sold
5percentagepresale
Aivate
@ublic
5sale_Cap
:EndDate
:StartDate
:$Cap
>sSold
:WeiRaised
5tokn
2ok(ba
4AfternoonVisit(a
5ndCalcRemainingPremium
4CanvasFor(ib
4DayVisit(a
4Earnings
<(ba
5xtendedVisit(a
4Keeper
4OVISSale(aa
5vernightVisit(a
4SpaVisit(a
4Ticket(abc
4WeekVisit(a
5ithEth(aajchd
8Lif(aajchd
4er!
4ing(a
7=Of(b
7Fee
7List(ba
7MetadataForKey
E(d
7s(a
4keeping(eea
3leanMapEntryForIndex(da
7Storage(d
3m(a
5b
4r$
3st
5CloneMarket(a
5er&
7s
8(a
2rn
4FamedStar(a
>ba
4Meteorite
=Number
4Star
3rowItem(l
6er
8Return?
>Date
>Fiat?
BPerEthRate
6ingDict(l
9List(a
2ssCutPercentage
2t
3IndexToApproved(a
:Owner(a
3OnSale(aa
3s(b
3tomName
2ught(b
6?Of(b
6Num
6@(b
7oday(b
8kens(b
6WithWhitelist
:outWhitelist
6_tokens
3leDevMultisig
3nties
8(a
9b
9d
8Alloc!
=a~
8Issued
8Key
;(a
8Minted
8|
5y
6(a
7b
8a
60x$
6Account
7dded
9ress
=(b
=ByCreator(ba
?Participant(ba
=es(b
8ress
7ffiliate|
7gents(b
7llocated
=ion
7mount
<(b
<Left
7vailability@
6=
=Map(b
=s(b
7eneficiariesCount
6Cap
7ount
6Delivered
8posit
7istributed
?or!
7rop(gh
7ura~
>InBlocks
6Factory
7ee
9Count
7und
:!
:Manager
:s
;(ba
<gh
6Init
6LockEnd@
6Management|!
<r!
=Distribu~&
8x$s
7inted
7kt|
6Of(b
8fline$s
=|
7nlineGW
<$s
<|
7wner
;s$s
6P
7aid
8rt
7ercent
=OfTotal
=age
7ool
:!
7rogam
:ram
=Map(b
6Refund(ba
8serve
=$s
CDistributed
8ward
<Percent
<s(b
6SEEDSinWei(ga
7end(ba
9t
7hare
7upplied
;y
<Remaining
6$
;!
<lloca~
<mount
;Fund
;IssuedTotal
;Supply
;@lock
;|
<ithdrawal
;s
<Account
=ddress
<Count
=reated
<Left
<NotDistributed
<Percent
<Reserve
<To!(b
=ransferred
<Vault
<|
8tal
;Supply
7ransfer(ba
>$(gh
6Value(aa
8ult
;Addr
6|
6_address
8lloca~
7funds
7paid
8ercent
6address(a
6manager
=Share
2vBatchDistributed
2x(b
31Star4
85
32Star5
3Choice(a
3Players(aa
1p$
7!
1rag
3nd
5Accounts(a
=Length
5s(b
2eakCookie(c
5Dura~BetweenPresaleAndICO
5Tie(a
5down(a
5evenLevel
5up(ba
3ed(afafcc
5Axies(aaa
5OnAuc~(afafcc
5@out
5With(tt
9Auto(aa
5ing(aa
8DB
8Fee
8Market
2ibe
5dCitizen
5ry
3ck^
3de
5Addr
5Vow
4ge
6Nodes(b
3ngBack$s
5Cat(a
2oadcastMessage(c
9SignedRequestAsPayer(jghhaj
MAc~(jghhaj
Ujjhaj
9ers(b
3ker
6Fee
6Imp
3ughtSprites(a
2yan
1s|
2sTotalSuply
1tb!Mapping(b
2c
3Deposits(d
3EthRate
3Id
4nvestment(baaca
3LastUpdate
3Oracle
3^Provider
4urchase(ba
3Rate
7Max
4elay
3$
8Bought!
4ransac~Claimed(a
3Updates(a
4sdRate
3raised
3s
4!
4BuyRecipient(b
4Por~Total
2g
2hFounda~|
4undDeposit
2nSupply
2s_address1
;2
2ts$
4Version
1ubbled
2cket?
6Closure@(d
6Exists(d
6Holding(db
6Manager
6Value(d
2dget
6MultiSigWithdraw(a
6Plans(a
6|
2ffer|
2gDiscovered
2ild
5(b
5Addi~(a
6t(aaa
5City(c<uint[2]><uint[2]>
;yy
5Factory(ea
5House
5Identifier(bbbdaaaaaac
5Out!
5^
5$(VV<uint160>i
:&
:Id(aaa
5Winery
5er
5ingCostWei
8IsPublic(a
8ToUnitCount(a
>s(aa
8s_total
4tOn
2lkBonuses(a
5uy(p<bytes6[]>ww
4CreateLambo(ablaa
?Sale(aaa
4DepositTo(h
4Mint(gh
9h
9wgh
4PurchageEgg
<Land
4RelayCMCT(ghd
6serve$sFor!es(ghG
4Sell(p<bytes6[]>ww
4$Mint(ga
?h
9Send(ga
@c
?h
@c
5ransfer(bgh
=ga
>h
?b
=wgh
<Ether(gh
<From(wbgh
4Whitelist(g
5ithdraw(g
3l?
4$
4et!
=(b
7mount
<(b
4smasterReq
2mp(d
4Round(a
2ndle(ba
6First$s(bah
6$(a
6s(e
2ried(b
6Supply
3n
4(<ProposalLibrary.Entity storage>ba
5Qa
5a
6a
7a
6b
6c
6f
7aa
6j
5b
6a
7a
7c
7f
6da
6n
5da
5e
5i
5n
4AccountMoeny(ba
5ddr
8ess
6min?(a
5fterIco
9Sold?
5irDrop(g
5ll
7(b
8h
7Investor$s(b
7Left$s
7Owner$s
7RemainingIBC
7$s
=(b
7owed
5mount
:(b
:Allowed(b
5ndConvertToQUA(a
7Retrieve(a
:urnAfterEnded(b
5sset(a
9Operator(a
5uc~
4Badge(a
6lance
6sisPoints
5id(a
5onuses
5y!(ba
7mount(a
6Owner(b
6Percentage(ee
4CadvsLeftInRefunding
5oin
8(a
8s(aa
:b
6ntractCoins(a
9ibutor$s(b
6unt
5rowdsale
4DNC(ba
5ead(ba
5ragons(a
4Enabled
5xcess(a
6tra$s
4FeatureDeactiva~
6eDenominator
7Flat
7Numerator
5inish
:ed
5orInsurance(a
7mula
5rom(a
9ba
;j
:ba
:i
9da
8!(a
@b
:min(a
9notherAccount(ba
8By!(bab
8Ico
8Owner(ba
8Reserve(a
5undAccount(ba
4GasAndFree(babgj
>From(babgj
5lobFoneCoin(a
4Hacking?(bc
4ICO$s
5LF(ba
5coCoins
7$s
5ndexed(a
;By!(ba
;From(ba
?By!(bba
6vestor$s(b
Da
4Land(a
5eft$s
8over$s(e
4Mana(a
6x
5e
6(a
6dal(a
5in
5ktCoins
5ultDen
8Nom
5y=
6QUA;AndSendQUAToSomeone(ab
6$s(a
6thex$s(ba
4NSPs(ba
5omins(a
4OWL(ba
5f(ba
5wner(a
:ba
9$s
?(a
9ship(b
4PREICO$s
5XL(ba
7RewardPXL(baba
@x2(bababa
5assport$(ba
6used@
5erTransac~
7centage1000m
Am
@m
>Default
7weiYearly
5oll(a
6ol
5rice
5urchase(a
4Rate
5emain
:$
:der(a
:ing
=$(a
Bs
:s
6puta~(abb
6serveFees(b
7ource(ka
7t$s
6turn(ba
6ward(a
4Sent(a
6quence
5ignature(bbbaaaaj
>jbbbaaaaj
5ome(ag
8$s(a
6up$sForDay(a
5plitPercent
5tage(a
7ke(ab
:b
5upply(a
4@Change
5oAddr
6ken
9(<$Lib.$Storage storage>a
:a
;c
:ba
9Burn(a
9Status
9s
:(a
;b
<a
<bba
:AndRefund(b
:ForSale
6talSupply(a
5rusted(ba
4Undistributed
6minted$s(a
6paid$s
6sold
:Coins(b
:$s
@(a
6used
:$s
5ser$s(b
4Value(ba
4Warrior(a
=b
5hole=
5ithData(baj
9ecimals(aa
4XP$s(ba
4_from(ba
4able
5ftersale(a
4ed
6(a
7b
7k
6AfterSaleCount
6Count
6ToDate
8ken
;s
<(b
<Count
5r
6(a
6!
6Changeable
6Owner
6Set
6_addr
6s(a
4ing
7Adress
7CapableAccount(g
7Enabled
7Finished
7Man2index(b
:s(b
;Count
7Percentage
7$s
4lvl$(ba
4t
5$s
5okens(a
3ritoData(a
7PoolTotal
3sar!
6PayOutNet&=(b
3y
4(a
2scarDocumentoPorHash(d
BId(a
BQM(c
BTitulo(d
3iness!
8Percentage
9lannedPeriodDura~
EEnd@stamp
8ersTotal=
3t(a
4Range
2ttonClicks
2y
3(<>a
5uint256[6][]>
4N
4a
5a
6aa
8aa
8ccc
8edd
6ccccc
6f
5b
6aab
6f
5c
6ak
6bbbb
6c
5fa
5j
4b
5a
6a
6bgjhh
6gjhh
6jbb
5b
6a
5caaaa
5d
5j
4c
5aa
6k
5b
5c
6abbbbI
4d
5a
5d
4e
5<bytes6>ii
5aa
5dd
4ikiqd
4k
31(a
5gghj
40
5(gghjjjjjjjjjj
50
6DaoFor1Eth
6^
6ktickets
6tickets
5^
5ktickets
5mint(bgghjjjjjjjjjj
5tickets
4ktickets
4mint(bgghj
4ticket
32(a
5gghjj
40
5^
4mint(bgghjj
33(gghjjj
4mint(bgghjjj
34(gghjjjj
4mint(bgghjjjj
35
4(gghjjjjj
40
5^
4^
4mint(bgghjjjjj
3AAC
4MI(c
4TicketFrom&(a
4d(a
7cc
6cccaeb
6ee
4ll?(baba
>baba
<BuyEth(baba
Dbaba
<PayEth(bba
Fb
6Outcomes(a
6owed
5t(bac
4ndCrave(c
8eateGame(aab
6PlayGame(aab
6Sell^
8tDivPercentage(bec
6Topup(b
7ransfer(bb
Aj
Be
5imalsFromAnimalFactory(cc
>User(a
5otherDrangon
5ts
4t^(a
5oken
4uc~(a
3BBC(b
4NN$s
4OTx(accba
4ack
7(aa
8b
7Fund
7InvestedValue
7^
<Wei
5g(a
5nkerAgreementFromImporterBank
5sicCards(aa
=_Migrate(baa
8Unit(aa
4kgAtExchg(baaa
4lock(aa
;dddd
9caaaa
8CDN
8s(eeee
5ueStarEgg(ak
?bak
4ooster(a
:Pack
5ttle
5x1
62
4ronze(aaedd
4uilding(aa
5lkMidGradeCar(bhb
7PremiumCar(bhb
7RegularCar(bhb
5nny(i
5yer$s
4yAtom(a
5Bot(aab
5Eth(ba
5Tomo(ba
3Car(a
7bafba
7i
6d(a
8ba
:aa
8eccc
7s(e
8AndSendGift(eb
5stle(aaa
:b
5t(a
4elebrity(a
6ls
5rtainOrder(Yaa
@aa
4hamp(a
:b
6nnel(c
5est
8(k
5ibiWithFcf(ccea
4ity(a
8k
4limateCoinsAgainstEther
5uster$
4oin
7(b
8k
7s
8(ba
8AtExchg(baa
:ICO
8CrowdSale(bab
8Preview(a
5ke
5llectible(aa
5mission
<Units
6mission
7onTTMByETH(ab
;WByETH(ab
6pleteSets(bba
5ntract
5pper(aaedd
5st
7ume(aa
5untOf(b
8ry(a
;e
6rse(aa
5vfefe(a
5w
4reditsAndSpend(caeba
BAndRecover(caebab
5ySolObject(a
6ptopinions(b
6stal(aa
:Demand(aacc
4up
3DEV
4OTCH(a
4aiWithEth(a
5y(kac
4eferredPresale$s(b
5ntacoinsAgainstEther
5pots(a
4iamond(a
5rectInMarketplace(a
5sciple(aaa
;Item(aaaa
7ountTTMByETH(ab
=WByETH(ab
4mlCoin(b
4ona~(be
4ragon(a
6ngon
5ugs
3EIT
4gg
6(aa
6Fee
6^
6With$(b
6s
4mptyLoca~(a
8Pixel(a
=Area(aaaa
4nabled"

end Listing
end EvmFlow
