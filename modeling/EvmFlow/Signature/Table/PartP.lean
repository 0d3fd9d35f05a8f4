/-!
# Known signatures, part P
-/

namespace EvmFlow
namespace Listing

/-- Known signatures from `transferSubscription` to `zzz`. -/
def partP : String :=
"0transferSubscrip~(db
:perAdminOwnership(b
=Ownership(b
=user(b
;ply(b
<orter(b
8TEST(ba
9LA(cb
9arget$(ba
9eam(ba
<Reserve$s(ba
<$s(ba
:ch(b
<Support(b
9icket(bb
:leFromOwner(Nb
Fkb
:me
<locked(ba
Ea
9o
:(b
<a
=jj
<baj
;g
:Account(da
;ddress(ba
Dj
<min(a
<visors(ba
;ll(gh
:BackupAccount(<Smart|Lib.| storage><IERC20$>a
Hba
;eneficiary
;ranch(ba
;uyer(bab
:Charity(b
;omposi~(ba
<ntract(ba
Ea
Ej
?ibu~Pool(a
Cor(ba
;rowdsale(ba
:Exchange(ba
Ea
:Grant(aa
<owthReserve
:ICAP(ca
?da
>CallGas
>WithReference(cac
Ldac
KCallGas
;nternalLedger(ad
:Known&(bao
:Locked=(ba
:Many(gh
;int(a
;ultisig
:New&(beddf
=Owner(b
:Owner(a
@b
:Parent(bbaaj
;ie(a
;ool
;roject|
=xy(a
:Ref(ba
:Safe
:Team(ba
;oken(g
:UserWithdrawalAccount(<Smart|Lib.| storage><IERC20$>a<IERC20$>a
Pbaba
:Vault(ba
:Winner(bba
:ken
=(a
?b
>b
?a
@a
@e
?ba
Af
@ba
>eba
>gbba
?h
=By&(ab
=&Ownership(b
=From(bba
Dba
=Out(ba
>wnership
F(b
Hbk
=To
?(ba
?CEO(aa
?Multiple(ga
Dsig(b
=_to=(ba
@Invest=(ba
=s
>(a
?b
@a
Aa
Ba
Ab
@b
Aa
Baa
@h
Ah
?gb
@h
>AndDividends(bb
>From(bbba
BAdvisors!(ba
BBounty!(ba
B&(ba
BPartners!(ba
CrojectFund!(ba
BSpecial!(bba
BTeam!(ba
BVault(ba
Iba
BWithSignature(bbbaaaaj
>Manual(ba
>To(ba
@Account(qqa
@&Owner(a
@DividendManager(b
@Owner
>Wei(ba
?ithOffsetAndLimit(aa
=ts(ba
:pLevelDomainOwnership(db
9reasurership(b
?y(b
:usteeOwnership(b
8UnPaidFundAccount(ba
:lock
:ownedPlanet(ba
:soldIco$s
>$
Cs(b
9serGrowthPool$s(ba
<$sTo(bba
8Vault(b
=Ownership(b
9esting(baaa
9iaProxy(bba
;Signature(bbaaaaje
Ibaaje
9oxel(beee
8|Ownership(b
9eb3js(ba
9hileLocked(ba
;teList
A(b
=list(b
:ole$s(ba
9ineFromVineyardCellar
:thAllowance(bbba
<Bonus(ba
Aes(baa
<Comment(bac
@ission(ba
=ustomReserving(baa
KNet(baa
<Data(bad
Cj
=ividends(ba
<Ether(ba
=vent(bba
<Fee(bbabba
<Index(baa
<Lock(baai
Ch
Ci
<Memo(bacc
<Narrative(bac
<Params(baaaa
=urpose(baj
<Ref(baa
?erence(bac
Hdc
ECallGas
>serving(ba
ENet(ba
<outChangeBest(ba
?Decimals(ba
?Reward(ba
9rapped&Admin(b
8XPAAssetAndProfit(ga
8Zone(ab
8_Different_amounts_of_assets_to_many(gh
9Same_?s_of_assets_to_many_addresses(ga
9asset(ba
9close
:oins(ba
9enabled
:th(ba
<er_to_owner(a
9funds_to_project
9left_funds_to_project
9owner(b
>ship(b
9remaining_funds_to_project
9status
9to_0(a
;ken(bba
>s_after_ICO(ga
8able
<(b
<=Of(b
=lock
<FromBlock
<Havvens(b
<Start@
<@
=okens(ba
Ea
Dl
BNow(b
<Until
9ctive
8batch(gh
9y(ba
<ba
8dissolvedFrom(bba
8ed(b
<ao
:ToPool
<kenOf(b
:_total
9rc20(bba
8lock
<ed
:ttery(baj
8other(bba
8rable
==Of(b
=@
9ed
;AtSupplyValue(b
;Crowdsale
;Index
;Manually
;Owner(b
;Presale
;$s
;_total
:rs(b
9ingETC(b
>H(b
8s
9(a
:b
:gh
9AllowDate
>ed
@To(b
:reLocked
9Blocked
9Enabled
@Flag
9Frozen
9Locked
9OnOff(e
9Paused
9Remaining
9Suspended
8tOwnership(b
9WDiscount(ba
9oacc(ca
:ken(ab
=&(b
8unlock
6orm
9(b
:ee
:llll
9Agent
9Classes(i
:ontract
9Data&
9From(baa
9Levels(i
9SeedToFlower(ba
9ed(l
5mute(ba
9;(babcc
9d(a
5perrun
6ort(a
9a~FeeMultiplier
5werFunds(a
3sh$s(ba
5ed(b
7$s
3vel^
6To(aa
8talEarning
6UnitFee
2easure
8r
7y
8!
8=
8&
8Managers(a
8Officials
A(a
8Sent
9upply
8@lock!
4tRemaintoken
3eDetails(a
4Pot
4ToOwner(a
4Water(aa
4fs
4s(a
5OnSale(a
3sholds
9(a
2iCmp(aa
3alDrops(b
3ckleDownBonusesReleased
7Pocket(b
7Sum
6ing(b
9Flo(b
9Pass(b
9Sum
3gger(a
7AirDrop(ga
8ttack(i
?n
=Manually(i
8utorelease
7Cooldown(a
8rossFork(c
7FailFlags
8indWinner
7HiddenCap
7ICOState(f
7Jackpot
7MinCap
7Pause
<Event
9yout
8reJackpotLimit
7Refund
9lease
7Sale(f
8hutdown(a
8oftCap
8tealManually(i
D2(c
D3(ca
7TansferEvent(bba
8ime
8ransfer(bba
7UnpauseEvent
7Version(b
8olcanoErup~
7Withdraw(b
7ed(a
3o&
3ple
6RoomMax
;in
3vial
7Threshold
2n(b
2ophies(a
5y!
2u$
3eBuy(b
4Gods
4OrFalse
4Supply
4USD
4bit!
3st
5(b
7f
6e
5!
5Client(b
6ontract(b
5ed
7(bb
7!InLUT(a
>LUT(a
>Size
7Burn$s(a
7CancelOrder;(bba
8hildRefund
<Withdraw
8lients(b
8ontractAddr
?s(a
Ab
8urrency&s(b
7FeeWindow;(bba
8illOrder;(bba
7IssuerAddr
7Market;(bba
7Order;(bba
7Proposals(a
7ReportingParticipant;(bba
7Sender
7$
<s(b
8ransfer(bbba
?$s(ba
7UniverseBuy(ba
?;(bba
7Vault
7|
8ithdrawETH(ba
7_contracts(b
6e
7!
7&
7VaultAddr
7Withdraw
2yAdvance
4irdrop
3Close
8Line(aae
3FinializeLastProposal
4lush
4orcePublic(k
3RoundEnd(a
3SetSubnodeOwner(db
4olu~(p
3ToFinalize
3Unlock
4pgrade(ie
1s
2Succeeded
2c
1tl(d
2t$!
1ub
3Fab
3ParamUpdate
3erIndexToApproved(a
<Owner(a
2lipIdToApproved(a
ATranser!(a
9Owner(a
5ToApproved(a
7Owner(a
5s(a
2ne(a
6a
7aa
9a
4Lambo(aa
2rn
4(b
4Id
4Last
4MigrateOff
4Off
7(b
7CanUpdate?ToTakeAsRake
@BackWindowAdjustmentRatio
@DeveloperMiningPower
@FrontWindowAdjustmentRatio
@NextGameInitalMinBetSize
HMinAndMaxBlockUntilGameEnd
HPotSplit
@PercentToTakeAsSeed
7Oraclize
7Sale
5n(b
6Furnace(<uint16[5]>n
6Oraclize
6Sale
6Tradable
4_flag_OFF
;N
4migrate
4off
5n
5ver
4refund
3retElementBySubtypeIndex(a
3tlemasterReq
1vUseEnd@
5Start@
2c
3EthFund
1weakDailyDividends(a
Ea
5RefundStatus
5State
5Upgrading
3ntyEnd@
6PercentWithBonus
6ThirtyAlloca~
<$s
<Vault
2in_contract
3tterBot!
7DropMultiple?(gh
;Single?(ga
7IdOfClaimer!(b
9ToEthereum!(a
C=(a
;;Credits(a
7drops(b
2o
3MillionFourHundredThousand
4onthsLater
3StepRate
3Weeks
3YearsPassed
3_card
1xBuffer(a
2Count
7(b
7er
2Fee
2Gas^Limit
2Key2index(d
2TaskMap(a
2nTax
2origin
2s
3(a
4ba
3PerHour(a
3Threshold(a
1yms(a
2peA
4B
5uffPercentage
4Hash
4Id
4Of(b
4$
0uBetCheckAccts(a
1bdateBTC
2iatarPlayVault
;|
1dfVUPDestina~
1int2str(a
4ArrayToString(h
4Produc~(ba
4Storage(d
4ToBytes(a
;For!(a
6String(a
=k
4sOwnerCount(b
1nApprove(ba
3uthorize&(b
;d(b
2Ban(b
3lacklist(b
;Account(b
4ock&
7External;
2ClaimedEther
9$(b
3onfirmPayment(a
2Delegate(edd
2Freeze
8(a
9b
:a
9e
8Account(b
Aa
8Rules(a
8;
8User(b
4ozen
8!(b
8$(ba
2Halt
2LinkFromMaster|(b
Hb
3ock
6Account(b
6Freeze(a
6Idx
6@
7okens
6up
2Mint(b
3utex
2PaidBurn$s(a
6Fees(b
7undAccount(b
4use
7(d
7Buy
7&
8rowdsale
7Game
7^Raise
7$
<Sale
8ransfers
3reIco
2Quarantine!(b
2RedeemedMTU
4gisterCertifica~Db(b
2Sold$s
3uspend(b
2Track$(bk
2Vote
2WhiteListInvestor(b
7list(b
;!(b
Bes(g
;User(b
?s(g
2approve(b
:d
3ssignOwner(bb
8Role(bdb
3uthorise(b
;!(b
9ze(b
;d!
2ban(b
5!(b
5$(b
5User(b
5_user(b
3ind(e
3lacklist(b
<d
4ock
7(b
7Account(b
>Funds(ba
8ddress(b
7Client(b
7FirstStake
7Me
9ssagesFrom(b
7SecondStake
8pending(b
7$@
<s
=(b
?ba
8ransfer
3ond
6(a
6ingPeriod
4undedLimit(b
3undle(ba
8Some(bag
4rnedType$s
4y
2cappedBuyerList(b
3ertify(b
3hainedMultisigVersionMajor
Iinor
3irculatedSupplyCount
3laimedBidsByAuc~IndexByBidder(ab
9CreditsWithdrawn
9Fees
9PayoutTotals(b
:lot^
:oolsPresent
9Rewards(d
:oyalty
9$s
?(ab
?ForInvestor(b
4eRate
5SafeNr
4ock!DuringITO(b
3ommitted$=
4nfirm(b
9!(b
9edMap(b
;Sum
>Addr(b
4operativeClose(biV
Fj
2delegateDAO$s(a
4rLimit(a
5Maintenance
5Number
5dogCount
8Info(a
8PayoutFund
>Markup
5lying
5mineComponent(ka
5write(a<uint[6]>j
:r
4stroyable
3isputeFavor
3o
4Pending(b
4_deadline
3ropped
2enable;s
2finalize
4x$^InWei
3ollow(d
3reez
7e
8(a
9b
:a
9g
8Account(a
@b
Aa
Af
?With$(ba
?s(g
9ddress(b
:ministra~&
9ll
8=(b
9onuses
8Count
8Deposit(ba
8FoundingTeam=
8^
8Start@
9upply
8TeamRecepientBlock
<$s(b
<|Block
9ime
<Map(a
<stamp
9oken;(f
=s
>(a
?b
9ransfer
@s
ASince(c
AUntil(c
8Upgrade
8_contract
9end_date
9period_time
?s
9start_date
7ing@stamp
5zee
4oze(ab
7PerDay
7n
8(ba
8ATAccount(b
8$s
2halt
6DirectTrade
6Fundraising
6ICO
6sTrades
3int(d
3old
6(a
7b
6Date
6Funds
6Gold(ba
6Mntp(ba
6Subscrip~(a
BOffer(a
6@
2icorn!
7Breeding
?!
7Management
7Ranch!
7$
<!
7s(a
8Gifted
8Of(b
3dentifiedSaleLimit
9yParticipant(b
3nject(b
3q(<uint128[] storage>
;6[] storage>
:256[] storage>
:32[] storage>
:64[] storage>
:8[] storage>
4ueContributors
6Ids(a
6Jingles(d
6Pet(l
9sCount
6Referers(a
6SpinnerOwners(a
=s
>Active
6$s(b
6_players
6nessIndex
3t
4Attack(a
:Increases(ba
:Multiplier(ba
4BattleEthCost(a
:PLATCost(a
4CoinProduc~(a
BIncreases(ba
BMultiplier(ba
6ntribu~s(b
6st
5rea~Fee
4Defense(a
;Increases(ba
;Multiplier(ba
4EpicGrowth
5thCost(a
7Wei
5xists(aa
4GooProduc~(a
4JadeStealingIncreases(ba
@Multiplier(ba
4MythGrowth
4PLATCost(a
4RareGrowth
4Sellable(a
5take
6ealingCapacity(a
4User=Limit
4edNa~s
4s
530percentExtra
540percentExtra
550percentExtra
5LimitForCurrentSaleStage
5OneEthCanBuy
Aafter
Abefore
6wned(ba
5PerEth
;At(a
8Transac~
5UserCanBuyLimit
DEth
3versalCall(c
9$
2knownInvestors(a
7Reserved
2latch&
3b
3imited
9Mode(bb
4st(a
7ba
6Domain(c
6QualifiedPartner(b
6SubName(d
?d
6Trophy(a
3ock
6(a
7b
8a
8gh
7c
8ae
8bba
9dc
8dbba
7ddd
7g
7qi
610Percent$sInBatch
7Y
620Done
7Y
6Account
=(Eb
>b
7ddress(b
?f
>g
=AfterITO(b
=DuringITO(b
:s(b
8vertisement(a
9isor$s
7llAlloca~!es
9$s
?(f
9oca~!(b
7mount
<(ba
=ce
<s(a
7ngelAccounts(g
6=(b
?a
8tchOf!es(g
FAfterITO(g
7ets
7lock
7onus$s(aaa
6CZR(ba
7ontract
8untArray(aa
7urrentAvailableFunds
6Date
:1
:2
:3
:4
:5
:s(a
7eposit(cb
8vSupply
9$Supply
6Emission
7scrow
7xternal;
6First
;Private
;$s
7or(b
9Development
9Founders
9Order(ba
9Work(bba
9ever
8under
=(a
7und
:rBal(f
:s
;AndPassEther
6Grant
8owthPool$Supply
6Kyc(b
6MainSale$
7e
7iner
6Outcome(ca
7wnFunds
9er=
;Date
6Part1
:2
7eriod
<Num
7riceChange
9vate
8oject$
7urchase
6Reward(ba
<$(b
AMany(g
6Sdc(b
7econd
<Private
<$s
7tatus(b
8ep
:Long
7upervisedFunds(b
9ply
6TeamAdvisorsPartners$s
;ndReserve$s
:@
;okens
@(b
@@
7ime
:(b
:Line
:Map(a
:Of(b
:Stamp
:s(b
=a
7o(bc
8ken
;(a
<ba
;^Change
;;s
;s
<(a
=b
>a
>l
<For!(b
7rading
9nsfer
>(ba
>s
6Unix@(b
8tradeableCards(b
6Vault
7ested$s
7oterMusic(a
6Withdrawals(a
6_times(a
6address(b
7t
8(a
6ePercentages(a
7d
8(a
8!
?es(b
ADuringITO(b
9fter
9ll$sForDev
DFounders
9t
:BlockNumber
8=
?(b
9lockForDev
@Founders
8Collateral(b
8ReserveAndTeamFunds
8TeamAlloca~$s
<StorageVault
9okens
>(b
8step(b
7r
6ingBlock
6sCount
6time
7oken(bbb
6up(b
2mined
5t(a
6$s(ba
6edGBT
2officialApplica~SignUp(c
KFee
:UserSignUp(c
DFee
3pened_bid
3wn
2paid
6Percentage(d
4use
7(a
8c
7Activity(k
8ngel$
7&
?(f
8rowdsale
@(b
7ICO
7PVP
8layer&s(aa
7Redemp~
9fund
7SALE
8ale
7$
<(a
<s
9urnament
8ransfer
7Withdrawal(b
7contract
7d|(b
4yPooling
3rocessedProfits
;QueryBytes32s(a
@List(a
5ducedCaps
5poseMilestones
2readMessageCount(b
=s(ba
4deemedComponents(bb
4gister
:(a
;b
<b
<f
;d
<baaa
:!(b
Bd
Aes(g
;uditor(b
:ByList(g
Bf
:Dsp(b
:For(bdbaaa
;romPool(b
:Init(b
:Listening(b
:Name(c
:Observer(b
:Prefix(c
=sale(b
;ublisher(b
:Scheme(bb
;elf(b
=ler(b
;sp(b
:$(bc
:User(7b
?b
>s(7g
:WorkerAffecta~(bb
:_contract(d
8tIco!(b
4leased?
:ChecklistItems(a
;ount
:Holder
4serve(i
9For(b
5pondedCnt
5trict
:(b
;g
:ed
2sale
3cannedCaps
3ealBid(dad
;bad
4llpause
4t
5(X
6b
6w
5AllowedMultivest(b
5ERC777(b
5Identity(ab
>b
6sBuyByAtom(a
7RentByAtom(a
5Manager(b
8y(g
6yIdentity(a
5Notaio(b
5RegionForSale(aa
5Sec~ForSale(a
5Vip!(b
5WildCard$(a
3ign(a
3old
6Addr
7lloca~Count
@Delay
@OraclizeGasLimit
Bders(d
=onScheduled
6CleanUp
7ontract
6$
;Issued
;s
<?
<Back
<Vault
<|
6UnlockedAt
6VUPDestina~
7esting!
4wed(b
3pent?s(a
7CreditsWithdrawn
7_supply
3take
7(aj
8b
7$s
=Manually(b
5sh(a
4op
5reHorsey(a
3ubscribe
;FromPool
2takenPrize?s(a
3il(CC
3rack(a
5nsform(k
4ustClient(b
8ontract(b
7edChildWithdraw
9Proposals(a
9$Numerator(a
3sqm
2vault(a
3erifiedFingerprint(b
7y(b
8Account(b
3ouch(da
2whitelist(b
<g
;!(b
BPresale(b
Bes(g
3rap(a
1pAd(a
2BetRecords(a
2Limit
2Player(bdaaaa
8Round(baaaaaa
3rice
2Round(abaafaaaaaa
7ID(a
2dAcceptAdminWithdraw(f
9Donate(f
4irDrop$Destroy(f
?Enabled(f
4mountBonusEnabled(f
4utoFreeze(f
3CouponBonusEnabled(f
9Consumed(cf
4rowdSaleEnabled(f
3FreezeEnabled(f
3InvestorEnabled(bf
;PreSaleEnabled(bf
3MinPurchaseLimit(a
3Rate(ea
7BonusAirDrop(ea
7Enabled(ef
7@s(ell
3UserBlackList(gg
3atCokeTotal(ak
5aLockPercent
5e
6(a
8a
9b
8c
9aaaa
9c
:c
7b
8a
8bbaab
8cc
8f
7c
8c
7d
7gh
9hh
7j
6AccessoryLock(lf
9ount
=(b
=ChartAgainstExistingEntity(baaa
8tiva~
7d(a
8di~alEmission(aa
9ressInfo(bafafafcf
=es(bb
8min(b
;istratorKey(bb
7gent(b
7irdrop(b
=End@(a
7llComponents
9PixelDetails(aeeeac
9RewPaid
9Scores
9owance
;ed!esList(bf
=;s(bf
7mountToTakeAsRake(a
7ndGetHodlTotalValue
8gelCardSeries(e
Gll
;Lock(lf
8imal(acc
<Special(af
7pp(cbaf
9Exec(db
9Instance(d
9rovalOf$(gf
7sset(bduaccvh<bytes4[]>
7uc~eer(b
8th(bf
7vailability(a
=le
9tar(aa
<Info(aca
Abaca
6BOTBillingInfo(acbcca
7alance
=(ba
@f
>dem
=OnFunding(a
=s
>(bdca
Bba
8nThreshold(a
9cor&s(bbb
8seComparable(m
:^AndMarketCap(aa
:$sPerEther(a
:URI(c
8tch(<int128[]><uint128[]>poof
;Start@(aa
<upport(f
7eneficiary(b
8t(aea
9Rules(faaaa
7lackList(bf
;lister(b
8ock(aadddd
;sPerDay(a
7onus(aaaaa
;Percent(a
;TicketsPercentage(e
;es(bf
8unty(ch
7rand(bcf
7tcRate(cc
7uildingPrivacy(af
8rnableStatus(f
8siness(aa
>Reserve!(b
8yStatus(f
6CABox$(b
7aller(bf
8mpaign(acccbbbc
8nFetch(f
9Refund(f
9cels(ba
8p(a
;a
:ca
9Flex(i
9s(aaaa
;h
:AndRate(aaaa
8r(adaaakeeeee
9d(a
:s(eh
8tRelease^(ia
7eleb(aRR
=cRR
8rtifier(b
7fo(b
7hamp(aaaaaaaaaaaaaf
9ngeAttemptCount(b
9rgingRate(a
8eckHourly(f
8fCentsPerEth(a
7ircula~
7lient(b
<!(<DAO>
Db
<Of&orManagers(aa
<Version
C(d
8osing@(a
7nyBtcRate(a
9EthRate(a
7odeWeight(ca
8keTotal(afk
8mmission(a
Acee
9pany^(aa
=|(b
:liance!(b
@Proof(dd
:onent(c
8nfig(i
=ke
:lictResolu~(b
9nector(bifa
9sumable(aae
9tact(c
:ract
>(b
?cb
>Owner(b
;ibutor(baa
A!(bb
;oller(db
9ver~Rate(a
8st
:(a
:&(b
8untryHoldersCount(aa
9pleImageIPFShash(j
7rowd(aaae
;sale!(b
?EndBlock(a
?Info(bc
Dc
?@line(aa
8yptoGamer^(aa
AVerified!(ab
7urator(b
9rentGameCardId(aa
=Period
=Stage
8stomFee(abbbb
8toff(K
6DBZHeroDetails(acbba
7ac(lccl
8teOfPurchase(ba
:s(aaaaaa
8y$Fees(a
7ecimals(a
8faultPayment
=@outPeriod(a
8lay@(a
9egate(lbccl
8murrageReporter
8scrip~(c
Cd
?veInforma~(bcccc
8tails(cc
>d
8veloperMiningPower(a
8xterity(ae
7iscount(a
8vidend=(aba
>sFor(<Holder>
7ocument(aa
8nate$!(ba
9or(b
7ragon^(a
9wPeriod(a
8eam(bcc
7ukeHistory(cfcbaa
8ra~(a
6EQUI^(a
7TH
9EUR(a
9NZD(a
7arlyParicipantWhitelist(bba
>ticipantWhitelist(ba
Qba
9nedBy(aa
7ggs
7nabled
=(c
8dDate(a
9@(a
=Manually(a
Ga
9sAt(a
8ergy(iia
7scrowGoalReached
7thICOThresholds(aaaa
Ka
<Variables(aa
9^(a
9Rate(a
>cc
9ToCentsRateCycleStarted
;UsdExchangeRate(a
9USDOracle
:sdManually(a
9er?(a
<ndtoken?(aa
Jbaa
;=
;Cap(a
<ost(a
;^(a
Ba
7ursPerEth(a
7xchange(b
@bf<bytes4[]>
>Rate
B(a
Ceaa
Bs(a
Ea
>Status(f
8ec(b
8pected?(dem
:rience(ai
9iry(a
6Factory&(b
8medStar&!(b
?Owner(ab
7ee(a
9?(a
9ForCurrentStakingInterval
9Provider(b
9Schedule(aaa
9s(aaa
7ifthExhangeRate(a
8ghter(aeeeeilklkk
=BattleStats(alklkk
=Stats(aeeeei
8leds(aa
8rstActiveGamble
G(a
;ChangeBlock(a
;Duel1(a
?2(a
;ExhangeRate(a
7lag
8ightStatus(da
9pAndMDT(baba
:$Reward?(a
7ollower(af
8rkValues
8urthExhangeRate(a
7reeStorage(ba
:ze(b
8omRegistry
7ulfillment(aac
8nders(bdc
Aa
:ingEndBlock(a
=StartBlock(a
:raiser(bf
6Game(epiee
:Cost(a
:ProprietaryData(ac
:Specifics(aa
Faa
:@s(ae
8s(a
9Cost
9ForXaurData(aa
7ene(aj
:ra~Dict(al
@Ratio(a
Gb
@Stop@(ae
7ift(aacc
8ver(lbccl
7lobalMax(a
=in(a
?Contribu~(a
7oal(a
:Check
8ldFeeData(a
8oConfig(b
7ravatarImage(c
>Name(c
6HardCap(a
8tchingRange(kk
7eartBeat
7istory(ba
7olidayState(ec
8useFee(e
7ydroMap(baa
6ICO(aae
9Date(aa
9^
9Status
9Vars(eaa
9mask(aa
7PO^(a
7coEnding(a
9Start@(a
<tus
7d
7mage!(c
8plementa~(b
7ncentive$Limit(a
9rease(a
8dexOfArrayType(elae
<rder$(aaaaae
Gbaaa
8fla~Rate
9o(a
<aa
8itialBonus(a
=Rate(a
=Zero(a
8stance(ddd
8ten~(accc
:rCrypto
Anode(d
;est
;val
8vestmentTotal(ba
<or
7pfsGateway(c
7tem(acR
<eeaaaaaff
:Traits(aa
6JoinedCrowdsales(b
FMultiple(g
6KYCStatus(a
9|(b
9list(g
7ey(<SortedDoublyLL.Data storage>babb
7ittenCoinsRemainingToDrop
<sRemainingForSale
7ryptoro$(b
6Lab!(b
9&!(b
8nd(aaaa
:Data(mmc
8stTransac~@(a
Jb
8testRevision(rj
<SaleState
7eftLottery
A(b
8monCoinsRemainingToDrop
;tokensRemainingToDrop
7imitPerDay(da
>Month(da
8nkHash(ad
8st(bbf
7ock(f
8gic(a
9oFee(a
:Url(dd
8veStory(qdd
?WithData(qddc
7uck(ae
6MC(a
8s
7DTReward?(a
7VNRate(a
7aintenance!(b
AMode(f
8nager(b
9yLandData(BBc
8ritalStatus(c
9ketCap(a
=ontract(b
<Data(baaa
9riageLicenceImageIPFShash(j
8sterCopy
<Minter(b
8tch(eee
;Info(acll
;Start@(ea
8xAcceptedDeposits(a
:lloca~(a
9Bet
<(a
:onusTickets(a
9Cap(a
<EthOnce(a
:ontribu~(a
9Gas^(a
9Jump(aa
9MinComparables(aaa
Ka
9Num(i
<MC(a
9Supply(a
9$sToDistribute(a
:xGas(a
>^(a
9Wei(a
7ember(ba
?fc
<!(bb
9eUrl(ac
8ssage(ac
?d
8ta(cc
:BaseUrl(c
:data(cc
7in?Wei(a
9Bet(a
9CapEthOnce(a
:ompanyValue(a
;ntribu~(a
9Deposit(a
9EthPerNotifica~(a
9GasForDrawing(i
<^ForDrawing(i
9InvestmentForIco(a
FPreIco(a
9Jump(a
9Reward(a
9Sale(a
:pend(a
9imal(a
;umContribu~(a
=Investment(a
=WeiRequired(a
9ter(b
:ingAgent(bf
=Data(aa
7oduleStatus(bf
7ultiSig(b
;pleReserved$s(ghhh
>UsersReward(gh
7y@Mint=
6Name(c
:AndSymbol(cc
8rco(acc
7ew$(bb
8xtGameInitalMinBetSize(a
>MinAndMaxBlockUntilGameEnd(aa
>PotSplit(a
:Steal@ByOperator(i
:WindowAdjustmentRatio(mf
7ote(lkXj
:ButContent(lkX
:Content(lj
:Metadata(lk
:Title(lX
8va!(b
:Coin!(b
<ntract!(b
:;Rate(a
6Odds(aa
7ffChain$s(a
9eringReputa~(be
7ldOwnerProfit(a
9$(b
7nSaleSupply(a
7pening@(a
9rator(a
8~sRegistry!(b
7raclizeGas(a
Ca
A^(a
8derStatus(ae
7wner(abb
<b
=ba
;Cut(a
;OfWeapon(ab
;Percentage(a
<roprietaryData(ac
;Shares(gh
6Package(ac
@b
8id(bba
8rameters(bbaaa
Ad
;s(aaaa
Aa
Ba
9entTotalTheoreticalSupply
9kingRate(a
9ticipantCapTier1(a
H2(a
:ner1_vows(c
?will(c
=2_vows(c
?will(c
8ssword(accc
8th(gge
8user(b
8yment(ab
=Manager(b
9out(b
7eloExtens~&(b
8ndingManager(ba
8rcentToTakeAsSeed(a
9iod(aa
<Dura~(a
<ically(a
9missions(ba
7ixelIndex(kk
7lanetLiason(aaac
<Name(aaac
<URL(aaac
9yerPoint(iiii
<sCoinByOut(b
CPurchase(ba
8edge(acca
8otData(acc
:^(aa
7ool!CapTier1(a
H2(a
:&
B(b
8werDayRate(a
7reICOMax$Supply(a
9SaleClose@(a
9nup(c
9saleBonus(a
=MaxWei(a
>inWei(a
=Numbers
=Whitelist(gf
8ice
;(a
=a
<boha
<da
;!(b
<gent(b
<ndDenominator(aa
;BottomInteger(a
;&(a
;Denominator(a
;EDEX(a
;Fci(aa
<req
=omRealUnicorn^
;Manualy(a
;OfEth(a
=$(a
;Tier(ea
;ValidSeconds(a
;s(aaa
9vateExhangeRate(a
=SaleClose@(a
9zePool(b
;s(h
8oduct(aca
>bccacf
>dcbaea
9file(cccc
>dd
=AboutMe(c
=Email(c
=Imgurl(c
=Name(c
;terole(ba
9ject(lbccl
=Descrip~(cd
9moBonus(a
;EthCommission(a
;FishCommission(a
9perties(aj
=yData(ac
:osalOwner(ab
7ublicData(ac
<ity=(ba
;sherFee(bk
Eb
8rchasePossible(f
>Size(a
?tartBlock(a
6QualifiedPartnerCap?(ba
6Rand&(b
:omSource(a
9kBoard(aa
8te
:(a
<a
;ca
:s(aa
>a
<h
7eading(a
?a
8cipient(b
9ord(bbf
<Name(ac
8feralBonus(a
;ralBonusRate(a
9undGas
<|!(b
8gion(Qaahff<uint8[128]>fb
=aahff<uint8[128]>fb
<Pixel^(Qaa
Gaa
:stra~(cc
?orStatus(<>f
Hbf
=y(b
?dbd
8lay(b
9ease(a
>iiirf
8puta~(caaccb
@Score(dd
8questSeed(dd
:ireKYC(f
=d(a
>Entries(k
>@BetweenDraws(a
8serve(befa
?ifa
=Ratio(e
=Vault(b
=dWei
9olver
>(b
9t
:rictedVault(b
8vertSuspendedPayment(f
8wardDistributor(b
<ForContributor(bac
?Drawing(a
<Ledger(baa
<PercentageByIndex(aa
<Rate(ba
<$(ba
7ightLottery
B(b
7ng!(b
7oundStatus(ke
6Sale(aaa
;b
:Limit(a
:^(aa
:StageManually(a
=tus
:@(aa
:s|(b
7core(b
7ecPerBlock(a
9ondChangeBlock(a
<ExhangeRate(a
8llPossible(f
:er(baba
8rviceFee(da
8ttings(aaaaaf
:lementStatus(f
7hare^(aa
;RuleGroup(aaaaa
;@Gap(a
;s
<(aaa
7iblingMigra~Total(b
8gner(bf
8zeBonus(a
7kill(aak
7nipCoinToEtherExchangeRate(a
7oftCap(a
7paceshipStatus
7tage
9ndard(ss
9r(acc
:t(a
;@(a
?Manually(a
Ia
9te
;(<int128>nedd
Hf
<ae
>a
:s(a<uint8[10]>
:us
<(d
=f
<Player
<es(o
8opGameOnNextRound(f
9rage(cc
=&(b
8rategy(acccghd
9ength(ae
7ubjectMatter(ac
9scrip~Offer(aa
8perPrivilegeParams(aa
9ply
:orted$List(ggg
7ymbol(c
6TabRap(d
8rget$(ba
Ckk
7eam(dccccc
:!(b
8ller(0q0<int16>f
8mplate(aaacc
>Reputa~(be
8ntativeWinningChildUniverse(d
8xtForHolder(dj
7hingData(oo4
9rdChangeBlock(a
;ExhangeRate(a
8resholdNewAuc~(a
B$Pair(a
;old(a
7icket^(a
<Status(ae
8erDura~(aa
:Minimum(aa
8leBlockValue(ka
:@Stamp(k
8me
:(aa
;b
;l
:BetweenGames(a
:Lock(a
:Mint=(a
:RC(baa
:s(aa
;tamp
7kn^(a
7oken(abe
<b
<cc
;!(b
<mount(a
Bbaa
;=
B(a
=seRate(a
;&(b
CAddr(b
;Details(c
;Emission(aaaa
;Holder(b
;Informa~(cc
=vestor=(ba
;Metadata(ac
;PerEther(a
<ool!(b
<rice(a
@PerUSD(a
Arovider(b
@WeekTwo
;Rate(a
;SaleState
<elling^(aa
<tatus
=ore(b
<upply(a
;Ticket^(a
<ransfer!(b
;URIPrefix(c
<ri(ac
;Value(ba
;sApproved
=vailable
<PerEth(a
BOnce(a
<State(aa
8tal
;(a
;GasCost(a
;Supply(a
7raits(a
9nscoderWithFees(baa
;fer(<NettingChannelLibrary.Data storage>laddj
?laddj
>FeeRate(<ProposalLibrary.Entity storage>ba
Fa
Fba
>MinimumFee(<ProposalLibrary.Entity storage>be
Ibe
Ie
>Restric~Verifier(b
8easury(b
@a
8ustSettings(ba
7xStats
6USDETH(a
9WEI(a
9XGE(a
8eqIndex
:gret
:vol
7nidentifiedSaleLimit(a
9tsOneEthCanBuy(a
8lockDate(a
8sold(caa
<$s
7pdater(b
7rl(b<bytes32[5]>
Gb
7sdEthRate(a
9PerMEth(a
8er(d
<jdd
:Claim(ba
?InBulk(gh
;reatedPerformance(a
:Details(d
:Policy(ffff
:Ratio(ab
:Shares
:sIndex(da
6VIPRank(b
7alidMC?(a
;Org(bf
9ue(a
;AndBurn(aa
>Mint(aa
8ult|(b
;s(bb
7erifiedSign(bcec
=r(a
8tting@(a
7itality(ae
7oter@s(ba
:sOn;(bb
6|(b
>c
<!(b
<s(bb
7eapon(accc
8bsite(bc
8edTotal(afk
Ak
8i?Share
9Cap(a
9PerWhole$(a
7hiteList(<>f
@bf
;list(b
Aa
Ae
Af
@gf
?Mapping(gf
?_batch(ge
?s(gG
7innerBid(fjajjj
<s(g
8thMPO
6XIPFSPublicKey(c
6_bitcoin_ratio(a
7eth_ratio(a
7fee(aa
7oracalize
;lize
7ratio(aa
6balance
6d(a
7At(a
7=
>(b
8et(a
7Circula~(c
7Ether^(c
7^
<(c
7Random(c
7@
7_policy_payload
6fundingEnd@(a
=Start@(a
6jingzhi(aca
6mktValue(a
6presaleRate(a
8ice(aa
6r
7!
6sAreAllowed
7hip(aa
6token(ac
>ca
?cccaf
5ingViaOracle(c
3oot(a
3t(acaaccb
2gradable
:&!
:State
6e
7(a
8b
9bb
9d
9j
8c
7Addr
;ess
8gent
<Locked
<Status
8llowance(bb
Ca
7=(ba
>Of(b
7Car(ie
:dConfig(b
;Damage(a
;Shield(a
8lass(a
8ompleted(f
;onent(ab
9nstitu~(a
:tract
?(ab
@b
@cb
<oller
A(b
Cb
9unt
7Dexterity(a
7EthCost(a
8vilMorty
@(b
7Factory(a
8ee
8inance(b
8or(ba
8rom(ba
=ba
7Gems
;Special
8ooCost(a
7HGT(b
8asBegun
7IdRange
8mplementa~(b
7Level(e
7M5(bb
9Logic(b
9$(b
8anager
9ster
8e(b
9Admin(b
8ining(a
?a
=Multiple@s(aa
7Oracle(b
7PackageCountOf(b
8endingExchange(ba
9rmissionedSC(bb
8refixPreSignedFirst(ej
FSecond(ej
9ice
9oposal(bbba
7Qualifica~ByEther(a
F$s
7Resistance(a
7Ship(aM
<ie
8torage(b
;es(b
9rength(a
8word(b
7Tank(ae
<ie
9rget
8imestamp
8o(ab
:b
;a
;j
:cb
9AndCall(abj
Abj
Acbj
9Premium(d
9ken(b
7UnitId(a
;Multipliers(baaa
7Value(a
7_cap
7abilityOwner
9leTarget
7d
8(b
8!
8&
@!
8From(b
8Version
7r
8Set
7s
8(b
8Owned(ba
6ing
9Center(b
9Enabled
2load(gh
6Advertisement(acba
6=s(gh
6Data(<bytes32[100]>
;j
;o
6Finish
6SignedString(crc
7tartlist(h
6er
2perBound
1r_luck(a
2bitAdmin!
5Team$sVault
2l
3_white_paper
3s(a
1sable=s(b
3geCost
5Fee(da
2d
3?
3Cap
4ents=
4ollected
5ntribu~(ba
4urrencyFunding
3Decimals
3EstimateIn&
4th
3Id
3Mnr
3PerEth
9CoinmarketcapRate
9Log(a
<Size
9Max
:in
9er
7ve
6HundredEth
6KEther
6MEth
3Raised
5te
3Sale(ba
3ToEth(a
8^
8er(a
5Hav^
5Wei(a
3raised
3t
2e(baaaaac
5baaaaac
3Ability(a
4ddr
4sBankroll
3Bottle(ba
3CaptainAbility(a
4oupon(c
3DELEGATECALL
3EIP712
4mergencyCode(a
4ncryp~
3Fees(a
3GoldenTicket(c
3Insurance(a
4tem(baa
7s(iaba
3Knowledge(b
3Module(b
5nthlyAccess
4ultipleItem(aaaaa
4yOldName(c
3Name(c
3Oraclize
3PluginWhitelist
4rops(hNN
3SingleItem(aaa
3Whitelist(f
3_test_data
3d(b
6b
5d
4API
4CoreSupply
4Hash(d
4IcoSupply
4Nonce(ba
4PaymentSupply
5osi~s
4ReserveSupply
6veralSupply
4SigIds(ba
7natures(d
8es(t
4Tickets(a
5oken=(b
9s
6talSupply
4_in_contract_fees
3r
4(b
4AccountTo|_(b
;s(a
6knowledged&s(bb
5ddress(b
<d
;2Id(b
;Added(b
;es(a
>i
5lreadyBoughtEth(b
5mount
5pprove(baa
5rreyPosi~(b
5ssignElement(aab
5tIndex(a
6tackMonsterCDSeconds
4=
;(b
=b
;s(b
6nk(b
7ned(b
8ing(b
5etContribu~(b
7Id(d
7Value(d
5uys(ab
9b
8Array(aa
4CanStillBuyEth(b
7celActiveGame(a
:Order(bbaab
6tegory(b
5hallenge
=(a
5ities(ba
5laimAmt
7ss(b
5omment(a
6ntractsMap(ba
6unt
9_
5rateCount(b
6eate(cc
:SaleIfApproved(aaaa
4DeployCount(b
7osit
;(b
5ict(ba
6eResult(d
6vidends(b
5ona~s(b
4EndGame(imddabj
;Conflict(ieaamddabjd
7orsements(ba
6tries(b
5therOf(b
5xisted(b
4Finalize
5orceGameEnd(a
Aeaamaa
5unds(b
4GameId(b
5etPendingTxBy!(b
5roups(d
7wPool!
8sPoolSupply
8th!
4HasHunterLicence(b
7KYC(b
7LuckyStone(b
7Pattern(b
7SmartSpeed(b
6tchRate(b
5eldTill(b
5istory(b
4Id(b
62!(a
6Index
;(a
6s
7(a
8b
5nfo(b
9ca
6itialized
6ventory(bb
5sWhitelisted(b
4Key
4Level(b
5ist(a
9ba
5ock(b
6okup(a
6veLocks(b
4Manager&
6ximumPurchase?Ng(b
5igra~(a
4Name(b
8Taken(c
5icknames(b
5once(b
5umber
:(d
4OfferAcceptElement(aaa
9CancelElement(aaa
9SubmitElement(aaaaaa
5rders(ba
4Payout
5endingCrateNumber(b
;Withdrawals(b
5lay
5oolFund
5rofit(d
:s
7xies(ba
5ublicFundingEthCountMap(b
6rchaseAstro(ba
<NumMap(b
4Rank
8!
8s(b
5eferralEggs(b
:er(b
7und
:To(b
:WithoutGuaranteeEther
6gister
<ed(b
:ry
6invest
6lease$(b
6scues(b
6wardAccount=(b
:Count(bb
:erCount(b
<s(bi
5ight(bAa
5ollDice(a
>b
6und(ba
9s(b
4Security(b
6lling$Of(bb
5ignupCount
5tats(b
6ructs(b
<d
4TakeOrder(bbaab
5eamOneShares(b
<take(b
8TwoShares(b
<take(b
6mp!(d
8BetValue(d
8Reward(d
5ipped(bda
5oIsAcceptingChallenge(b
6MemberIndex(b
6Nonce(b
7umCelebs(b
:ities(d
9Items(b
9Towns(d
9Villages(d
6Robots(ba
6Score(b
6Team(b
6UserToAttackId(bb
6ken2PlayerCount(b
9Of(b
9s(b
<a
:Values(bb
6talContributed(b
5ransfer
<(ba
>ba
<From(bba
<ed(b
4Unlock$(a
5pgradeElement(aaa
4|;Ether(bba
5eiSpent(b
5hiteList&s(bb
5ithdraw
<(a
<PendingTransac~s
<alStart@
4_acq_address
5balances(b
5contract
5off_freeze
6n_freeze
5predic~s(b
5referrals(b
4index(b
4length
4nameDoesNotMatch(dd
8Of(b
8To!(d
8s
9(b
:d
:q
:r
9To!es(d
4s
5(a
7a
6b
6d
6re
5!
<(a
=b
<es(a
5CanTrade
;nsfer
8UnFreeze(f
:freeze
5Getter
5List(a
5NETF(ab
6TD
8(b
5Ref(b
7gistered
5SpriteOwningHistory(b
5Withdrew
=(b
4value
2t!
2urpa~
1tilityAccount
7LockedDate
0vIced=s(a
1acate(b
2ild=For$Crea~(b
2l
3Int
3id!es(b
6fter(b
6rb(ba
82(b
6stroCount
5=Of(b
5Certificators(b
6hain(u
6oordinate(aa
7urses(b
5Delegate(bcb
?db
=Signature(bceddd
7stina~s(a
6raws(bah
5Factories
5Holder(b
5Identifier(a
6nitialBuyout^(aa
7sertPosi~(<SortedDoublyLL.Data storage>abb
5Kyc(b
5Locking?ToPeriod(a
5MC?
5Origins(a
5Player(ab
;2(ab
6osi~(aaba
6urchase(<DirectCrowdsaleLib.DirectCrowdsaleStorage storage>
>a
>baaaaa
=Bonus(a
=Ico(a
=@(a
>okens(a
5RareId(a
7teDura~InBlocks
6esult
5$=(b
6ranscodingOp~s(c
5UnitId(a
7til
6pgradeId(a
6ser(c
5Withdraw$(ba
5ate
8(<CertificateLibrary.Document storage>jdd
9a
9b
:a
;djd
:ba
8AndGetPurchase$s(bba
>RedeemFee(bba
>;Fee(bbba
9uthentica~(baa
8Board(<uint256[81]>
9roadcasterSig(cadjb
8Claim$s(b
9ompanyName(d
:ntentHash(<CertificateLibrary.Document storage>d
Dbad
<ract(b
@WithCode(bc
=ibu~(a
Aor(baedd
8File(bajff
8Gas^(a
8Hash(d
8IpfsDoc(<CertificateLibrary.Document storage>j
@baj
8KYC(bf
9ey(d
8Lock
8Name(c
<Internal(c
DET(c
8Order(babbabaa
=Parameters_(<address[7]><uint256[9]>eeeejjj
=_(<address[7]><uint256[9]>eeeejjjedd
KLeeejjjedd
8PhaseDates(aa
9roposedKingdomName(c
@MonarchName(c
@ThroneRules(aaaa
Pa
9ublisher(bfc
8Receipt(caddjjd
:fundSignature(ejb
:serves
<tDead$s(a
8Signature(deddb
9tart(bb
=Megabox(ba
8$(baaa
?f
9rade(babaaabeddab
?bb
;nsac~(b
=criptHash(<CertificateLibrary.Document storage>d
Gbad
=fer(<ChannelLibrary.Data storage>bbajj
8|(bfc
9innersCount(iii
8_percent(e
7ionFailed(b
:Passed(b
;rice
:@
>(b
:|
:_inviter(b
:s(ab
7or
9&
9Fee
9Num(b
9s(a
;b
5ityDate
3ua~AndCutOff
4e
5(a
5AfterReducingFee(a
6irDrop
5BeforeFeesWereReduced(a
6locked(b
6onuses(a
5Changed(cc
5ForTranches(a
5InUSD
5Of(b
8c
8ef
7&
6n&
5PerShare
8$
5Raised
5ToBeSent
7$(ba
7ken
7talSupply
5WithFee(a
5e(a
5s
6(X
7a
2nbexTeam!
:Supply
:VestingPeriod
3il!
5Coin
4sh$(a
2r$Alloca~(a
3ia~
9Cycle
9Probably
9sOfOwner(b
3s
2ult
5!
5=Of(b
6yId(a
5Closed
6ontract
5Deposit
5Funds
5List(b
5Num
5Owner
5PercentOfTotal
<age
5|
5_deposited(b
6state
6wallet
5s(a
1c1|4Pct
22|4Pct
23|4Pct
2x
3Count
3|
1e$
2ndDisciple(a
4Guardian(a
4ingAttachedState
7CreateCollectible(aab
Jb
4orAlloca~
6Count
6|
6s(b
3t
3ue
2redictum
3ifica~(b
<AddedOn(b
?ress
CHoldersListCountMap(b
NNumberMap(ba
CMap(b
CNumberMap(b
COn(b
<CodeHash
>untInt
<Fee
?=s(b
<Holders@stampMap(b
CValueMap(b
Derifier!Map(b
<ListMap(a
<Off(b
<Period
<Rate
<SlashingPeriod
6ed(b
8Account(b
9ddresses(b
9ttributes(b
8KYC!es(b
8;From(bba
Haaa
8User(d
<s(b
=OnlyMode
8WinnersCount
?LastCount
7r
8!
8s(aa
5y(aaUaaUU
9accx
;xjj
9haahh
7b
8b
8d
7c
8edd
7d<uint8[5]>d
8edd
7e
6Account(bcc
?f
7gtDebugForTesting(aaaaaahh
7mount(baaf
7ndLiquidate(bbbaaaa
6=Proof(biVj
7id(ad
:dd
6Cert(ddb
:WithID(dddb
7laim(jaaahhhh
7ustomer(bddefa
6EIP20(b
7RC20(b
7xtraData(<>da
6File(c
6Game(a
:Result(d
6Hash(jahh
7umanStandard$(b
6Investment(ba
<or(b
>s(g
6KYC(b
:ddddd
6Module(bf
6Name(d
6Op~PoolMembers(b
7rder(baab
7wner(dbedd
;ship
?(bb
6Params
9ticipant(b
8yment(u
7osi~(elll
?kel
7roof(jd
>d
9posal(bbac
?dbbadc
7ublisher(b
6Seed(dd
7ig(djj
9nature(bbedd
Adedd
7ubmissionIndex(<>aaa
Fbaaa
6Target|
7etherCurrency(bac
<Loss(baa
7ransfer(bba
Bf
>Signature(bbedd
6Url
7ser(c
6|(b
6XTVSignature(dj
6Your=(b
:self(ca
6_fund
7send(ba
7withdraw
3namCrowdsale$
3sion
7Code
7IdToShutdownIds(a
9ent
7ToProposalIds(b
7ed(b
7s(a
9b
2st
4(baa
8aa
5f
42advisors(b
6ll(b
5mlDevelopers(b
5team(b
4=Of(b
4&
4From@
4Interval
4Stage
5upply
4@
5o(ba
6!Ex(bnei
6kens
:(ba
=baaaf
4ed(b
8a
6!
8visors
7mount
<(a
=b
>b
<Available
7vailable?(bb
6=(b
=Of(b
Aa
6Date
6Team(a
7o(b
8kens(<$Grant>l
=b
>a
7ransfer(baa
4ing
7(b
71Withdrawn
72Withdrawn
7Accounts(ba
8ddresses(a
8gent
8mount
=(b
9t
8pplicature
7=(b
8eforeBlockNumber(b
9neficiaryForIndex(a
Kba
8onusMultiplier
FPrecision
7Configured
:tract
9unt(b
<Of(b
7DateEnd
9ys
8ura~
7EdwinVanBerg
8nded(b
:s
8xists(b
7Founder!
?lloca~
8unc(aaaaaa
7Grant(bbaa
7HasStarted
8olders(b
7IsCompleted(ba
7Manager
9p(b
:pingSize
B(b
9ster!
8embers(b
8int(bba
7NathanChristian
7Obj(ba
8f(b
;a
9fsetsLength
8wing
7Paid
8ercent
:iod
=InMonths
=Length
=@
8lans(a
7Registered
8ules(ba
7Schedule(b
?s(b
Baa
8imonCocking
8tage@
:rt
<Day
<@
@stamp
<Unix@stamp
<ed
<s
7Team|
8ime
8oken
<(b
9talPeriods
8ransfer(bba
7Vault
7|
=s(a
8hitelister
7_amounts(a
8offsets(a
7s(a
9b
8=(b
8Of(ba
2toMo~(a
4Payout(aa
3ting@
2ztUserArrayIdentifier(b
8Registered(b
8s(a
1ideos
6(X
7a
7d
2ew22
54
56
58
430
52
54
56
58
440
52
54
56
58
450
52
54
56
58
460
52
54
56
58
470
4All(c
7Controls(f
4=
5eneficiaryDetails(b
4CancelledList(b
5laimableInvestorDividendPool
9edThisPool
5oinSupplyAndFunding(f
8sKarma(a
>BySymbol(c
6ntractHolding$
9ibu~(b
5reatePeti~Fee
6owdSaleLive(ff
5urrent^
4DividendCooldown
4FeaturePeti~Fee
;dLength
5ounders$s
5unds(b
4GiveKarmaFee
5oldList(b
4IndexNumber
6itial^PerShare
6vestorDividendHistory(a
DPool
4KYCAccepted(b
5armaVotes(a
>BySymbol(cb
4LastClaimedDividend(b
6testErc20Transac~Request
;thTransac~Request
5ockUpStatus(b
4MaxGas^
7Shares
5emory(a
6rkleHash(kee
6ssage
5yContribu~(f
6Shares(f
4NextRelease(b
5oncsalloca~s(b
5umberOfMemories
4Owner
4Password(a
5eerToPeerMarketplaceTransac~Fee
6ti~(a
<Shareholder(a
GWith!(b
=igner(a
BWith!(ba
5reSaleCancelledList(b
;Refunds(b
BInMainSale(b
4Rand
5eserved$s
4Score(b
5ellOffersAtExchangeMacroansy(bf
6ntBonuses
6rviceReward
6ttingsChange(a
5hareholderListing(a
9sSold
5pecific(ca
5uperOwner
4Team$s
5oken
9(a
9Name(e
9sRemaining
:Sold
4UnclaimedDepositDividends
=ResearchDividends
4XCAT(bbd
4_last_result(b
5ready@(b
4a1(b
52(b
4price
2g
3!
3encia
2llage^
7info(a
7sSold
5inIndexToApproved(a
>Owner(a
2nciCap
5Sold
3eyardEndorsements(da
8Vines(b
2ola$
2p(b
3BrokerFee
9Num
3List(b
3PlacementNotDistributed
3Rate
2rtualEntitiesCreated
7Reserve=
5ePlayerPoints
3us(d
5Hashes(a
5Owner(ba
2sion
4tCost
9(e
5Length
;(e
5ingUnicorns
5orTeamScore
3tFlagList(b
2tPerWei
3$
1maxEtherPerPurchase
2inEtherPerPurchase
1net$
2t
1oid
4Transac~(a
4_race
3tingStart@
2lume
6BasedBonus(a
7onuses$s(b
6Discounts(a
Ac
6Type1
:2
:3
:4
:5
:6
:7
4nteerWrite
2te
4(a
6b
7f
6f
7c
5b
6a
7a
8a
6f
5c
6cc
6e
6na
5d
6a
6f
5e
5f
6b
5g
5h
6oh
5i
6i
5j
5k
6a
5m
401NoCount
6YesCount
52NoCount
6YesCount
53NoCount
6YesCount
41(bb
45(bb
49(bb
4A
5(a
5gainst
;(a
6ree
5ll(b
7owTransac~s(f
4B
5(a
5alance(b
5oardProposal(abf
4C
5lose
5ost
6unt
9(a
:b
9s(a
5ut
4Dates(b
5escrip~
?(a
4EmergencyWithdrawal(f
5nd(a
7@
7s
4For
7(a
9a
8ba
8kbdj
7Answer(abf
7CashBack
?InPercentOfWeight(a
7Disable
7Proposal(a
7Refund(f
7Tap(f
4Hash(b
4InMasterKey(b
6fo(db
6itiate(aaaaaa
5tems(a
4Kindness(b
<Reset(b
4Lock(b
4Name
5o(c
4Of(b
5nNewEntryFees_only_VIP(e
6Proposal(f
5utMasterKey(b
4PerETH
5rice(af
6oposal(a
=bbacj
=dbbadcj
4Quorum(af
4Records(aa
6lease
6quest(a
6sult
:(a
:Publish(gh
6wardPerUnit(a
5uling(aah
4Start(a
9@
7tus(da
6opped
5uicide(b
6perQuorum(af
5vp01(f
82(f
83(f
4ToFreeze(b
<Fund
6HarvestFund
6KickoffNewFiscalYear
6UpdateMaritalStatus
<Prenup
6ken
9=(b
4UID
4Weight
:(b
:Unit(a
5ithSpecified?s(daaa
4Yes(c
4_beneficiary(c
5for_candidate_C_for_free
CD_for_Free
5proposed_address(c
5until
4d
5(ab
6b
7b
7f
5!
5For(b
6reeze
;(b
5Harvest
<(b
5Kickoff
<(ab
5No
5PerCent(b
5Yes
4log(fba
4r
5(aa
6b
5!es(a
5Exists(b
5Identities(a
5Reward(baa
5Stakes
5ToBallotID(b
5Voting@(b
5s
6(a
7b
6Count
6Len
9gth
4s
5(a
7a
7bb
6b
7a
6e
6u
5Against(a
6rr(b
6vailable(b
5By!(b
5CountByOpera~(d
5Decline
5For(a
9b
8Answer
5Iter
9(a
5MaskByOpera~(d
5No
5Support
5Yes
5_against
6for
3ing
6(bac
7c
6Active
7ddresses(a
7llowed
6ByXid(af
6Controller
6Data
7eadline
8scrip~
7ura~
6End
9sInHHMM
6Fee
6Info
:(bb
6Open
6Period
<BlockNumber
<Start@
7roposal(cda
9xy&
6Reward
7ightsOf(b
6Start
6_info
7started
6s(a
7Winners(b
7_(b
7tage
3osTotales
2uch(d
5Proposer(bc
5ed(da
6rs(da
2ws
2x
3Fab
1pe_per_Keos
8eos
2p$
1ra|
2c
3Count
3|
2eoSaleOngoing
1uePayETHDestina~
0w
10keAFPresale!
1_Advisers
2Bounty
2Founders
2Reserv
2Team
2futureDevelopment
1a
2d
3d(nn
3min_burn(af
7freezeAccount(bf
7setContrAddr(bb
7transferOr(b
7withdrawFund(a
2ger
5(a
5CardFor?(ba
5Index
5Pool
913
95
5ingOf_(b
2ifuIndexToApproved(a
<Owner(a
3t
4PairBetIDs(a
5eriod
4Query
4@
8Blocks
5okensPeriod
4ing
7(b
7ForClaim$s
:Payout
7Oracles
7@
4tokens
2keUp(a
6Proxy
2lesaDawajMojeStoMilionow
3kBook(k
4ClientOrders(bnn
4TowardsBlock
3let
61
70
62
63
64
689
6A(b
7ddress
=es(a
?Set
8visor
7llowances(bbg
7ngelPESales(b
;Sales(b
7vatar
6B
7(b
7alance
=Of(b
=s(b
@g
7eneficiary
7lockOf(b
9gs
7ounties
;yAndAdvisors
<Program
6C
7(b
7ommunityReserve
9panyReserve
8ntract
8reTeam
7reated@stamp(b
6Data(b
7eposit(baa
=s(b
8v
6E
7TH
7hterCrowdsale
7mail
7therPresale
6F
7(b
7acebook
7ees
:InBps(b
7orBounty
9Community
9ETH
9Presale
8under1
=2
=3
;ingInitiatorSales(b
7romTeam
6G
7(b
6H(b
6ICO
7d
6Lock(baff
:Both(ba
>Forever(b
6Name
6OEM
7ne
7ut1
92
7wner
;!
6PESales(b
7ercentage
9iodOf(b
7latform
6Remaining
8serve
6Send(bab
7plitPercentage
6Team
:Advisors
7hree
7imeOf(b
7okenAdvisors(a
;Bounty
;Reserva~
;Team
;s(ba
7rade(babbaafd
9nsfer(b
;late
7witter
8o
6Unlock(b
7serCount
:s(a
6Version
6Webydo
7ithdraw
>(a
>al(baa
6_!
7Mini_!
7address
6s
7(a
9a
8b
9a
8e
7Delegate
7FromUser
7ICO(b
4ock
7ed
3unlock
2n$
3Unit
3port
3tItForFree(a
6MoreThanYou(a
4MyEther
6$(a
4NewMinter(b
7$s(h
4ToBeWhale
2raCoin;(ba
4coin_per_ether
3ning
3rior
7Block
7Gold
7ToApproved(a
9Owner(a
7sByPlayer(bb
8OnTheBattlefield(b
2sCalled
3Delegate(ba
3GoalReached
3Paid(d
3SaleEnded
7Started
4oftCapMet
4uccess
:ful
2tch(b
5Percent
6referersTasks(ba
7ice
5VideoA(b
:B(b
:C(b
5ed!
6r
3erTree(a
5mark
2veCap1
72
73
74
4To$s(aa
4sAgent
6ssetId
5GW
5Id
5$s
2y
1b
1c
2f(ba
2t
31
32
1d
2(a
2Before
2iv(aa
5nn
2rawBfr
1e
2AreClosed
2_test_token
4oken
2aponEntities(a
6Models(a
6ToApproved(a
8Owner(a
2b!
3GiftEther?
7Line@
9st(b
7OnceMax?
7Sent?
7Total?
7Un;(bb
3Site
3page
3site
2daddress
3dingdate
2eOneEthCanBuy
3k
41Cap
5End
5^
5Start
42Cap
5End
5^
43Cap
5End
5^
44^
4Bonuses(a
<e
4FourStart
8thRate
4Length
4OneRate
7Start
4Pot
7Expira~
7Highscore
7Leader
4ThreeRate
9Start
5wo^RiseBegin
7Rate
7Start
4_in_blocs
5max
5winner
4length
5yPots(a
6Rate(a
7ewards(a
6Winners(a
6_disbursement
4sFromCrea~
9End
<PlusMonth
2i20
45
4euroCents(a
3AllowedToReceive(aaaa
4mount
9Share
3=
:s(b
4uysHowManySeconds(a
3Cap
6Reached
4ollected
5ntributed
>(b
>Conclude(b
>Pending(b
<ions(b
5stOf$
4rowded
3Delivered
5posit(b
4istributed
4onated
:(b
3ExchangeRate
3ForMcr
6RefundICO(b
<PreICO(b
6Stake(a
6$
;(a
6Xau
5unded
4romRefs(b
4undingCap
3Goal
3HardCap
3ICOMaximum
7inimum
4nvested(b
;By(b
3Limit
8Per!
8s(b
5quid
3MaxCap
6Investment
6imum?
:Goal
:Limit
4inContribu~
6Investment
6Sale
:(a
:Ico
:PreIco
6imum
:?
:Goal
:Limit
3Paid(b
5rticipate(b
4ending
5rABIO
7nimal
7tom
6Block
7tc
6CHF
7ontributor(b
6DTH
6Eth
9er
6Fee
6InitialHONG
6Min$
6Sgd
6$
6USD
9inTGE
6Whole$
4ixel^
4reCollected
6saleMax
5ice
3RaiseLimit
8d
9AfterDiscountRounds
Fs
:mount
9DuringRound(e
9ICO
:co
:nPreICO
>sale
;cludingFiatCurrencyRaised
9PreICO
=co
<Sale
9Round
9Total
4eceived
;(b
5fund
9ed
;(b
5qFund
4ised
4ound1
3Scale
4oftCap
5ld
3ToBnty(a
5Cap
6ents(a
6ollect
<ByInvestor(b
5Ether(a
5FNU(a
6inney(a
5Owner(ba
5PresalersFromICO
5Raise
6eceive
8overICO(b
<PreICO(b
5Share(a
5$(a
:Factor
:s(a
;At@(aa
5kensRaised
5tal
8Raised
9eceived
:funded
3Unlocked
4sdExchangeRate
6Rate
3WantedOf
;(b
4ithdrawed
3_per_token
4raised
3cap
3ght
6(a
6LostPartLimit
6s(a
8b
3sDeposited(b
4HardCap
4MinInvestment
4PerBig$
7Ether
4Raised
4SoftCap
2lcome
7Msg
2reld(aa
2th
4&
4$
1hackingPool
3le
5!
5=
5ExchangeRate
5IncreaseLimit
7dexToApproved(a
<Owner(a
5Ledger(b
5Max
5Start@
5WantMyEther
3tDidJasonSay
4Round
4SatoshiSays
4WouldPurchaseDo(aa
2ee(a
3n
4GameDies
2ichAuc~(a
5ChainIsThis
5Period(ba
5Tick(a
3teHat
5List
9(a
:b
9!
@(b
Bf
@es(b
9&
A(b
As(b
>oller!
9ERC20(b
=23(b
:nabled
;dBlock
<@
9Investor(b
9Limit
9Mge
:in?
9Of(b
9Period
:reSaleDura~
9Registra~End@
9@
9ed
;(b
<d
;!(b
BPresale(b
Bes(b
;&s(a
:r
9ingAdmin
<&
9s(bd
5PaperHash
5_dura~
5hat
8Recover
5list
9(a
;b
:b
;a
<ai
<i
;b
;eb
:g
:pg
9A(b
:ccount(ba
@s(g
:dd
<(b
=g
<r(b
=AndBuy$s(ba
=ess
@(b
Ba
Bf
Ca
Ag
Bf
@Array(g
@Presale(ba
@es(b
Cg
Daf
Df
BPresale(g
;min
>s
?(b
:gent
:ll
<!es
:rray(a
9B(b
:onus(b
>?
>Closing@
>LockPeriod
>Percentage
>Rate
>Sent
9Company(bccc
;ntract
A(bf
>ol
@ler
;unt
9DayCount
<MaxStake(e
9Enable
?d
;d@
;tries(aa
9FilteringSwitch
9IndexMap(b
;vestor(a
Bb
Ccc
As(g
9Length
:imits(a
9Manager
@Addr
<y(g
?aai
;xContrib?
:e(nedd
:ulti(ghh
>ForTier(aghh
9Off
:perators(b
9PrincipleLockPercentage
Iiod
<vate(b
:ublic(b
9Rate
=s(b
:egistered?(b
?rants(b
DFlag(b
@y
;move(b
@g
;quired
9Setter!
:tart
>Block
:upplier
9Threshold
:icket(b
:oken(b
@f
>s
:ransfer(b
9User(b
?n
=For;s(b
=s(g
9|
?(b
:eiRaised
9_addys(g
Af
:enable
@d
:pool(bba
9antToMaxBuyin(b
9ed
;(b
;Addr(b
?essCount
BMain(b
BPre(b
Bes
D(b
?s(b
;BeforeActiva~(b
<urn(b
<yeSayer(b
;&
C(b
@ibutors(b
=unt
;GeneScientist(b
;InvestorCounter
;Marketplace(b
=x(b
<in(b
;Participants(a
GLength
<lannedContribu~s
<ools(b
;Rates(b
;Spawner(b
;$s(b
<ransfer(b
Cer(b
EForIndex(a
;Users(b
;|s(b
;_Cornerstone(b
<Prebuy(b
?sale(b
>ivate(b
:r
;!
;_address
;s(b
9ing
<!
=gents(b
9s(a
<b
;b
;eb
5map(b
5paper(a
2oAmI
3HadTheBiggestDick(a
5sTheBiggestDick
3IsAdmin
5TheOwner
3is(c
6d
3leSaleValueLeft
5$sPerEth
;Reserved
5saleLeft
3m
2y
1idth
5drawEtherDelta(a
5raw
8Dev
2htdraw
2kiPages(a
2ldcardCount
8$Id
8s(k
9Held(bk
3lChangeCost
4buy(abaa
7FindSpot(b
7Info(ba
4sell(abaa
8FindSpot(b
8Info(ba
2n
3(a
5aaja
3!Of
4mount
3Choice
3Funds
3Index
3MultiplePer
3NetworkFeeBasisPoints
4um
3Odd
3Percent
4ool
7ing
4rize
8s(a
3Reward
3dUp
4ow
60End@
7Start@
7$Crea~Cap
<ExchangeRate
9talSupply
61End@
7Start@
7$Crea~Cap
<ExchangeRate
9talSupply
62End@
7Start@
7$Crea~Cap
<ExchangeRate
9talSupply
63End@
7Start@
7$Crea~Cap
<ExchangeRate
9talSupply
6At(a
6BonusMax
<in
;Step1
?2
6FinalBlock(a
6Open@
6Period
<End
3eInCellar(b
4Produc~Rate(b
4ries(da
5yOpera~Endorsements(da
3gsETHRewards
?Percent
5$Rewards
APercent
:sReserv
=ward
5|
3lose
3ner
6(a
8d
7b
8a
6!
7nnounced
?(ba
6BidValue
9der
6Confirmed
8unter
6Decided(aba
=Gas
6FromGas(a
6History(a
6Index
7sA
8B
8Draw
6Key
6Limit
8st
7uckyNumber
6Name
6Of(aa
6PoolTotal
7rice
6Reward(ba
6Ticket
8mestamp
6Withdraw
>(a
>al
6_announced(ba
7bids
7horse(d
7percentage
6id
6s
7(a
9b
8b
8iw3
7Count
7Pot
7_count
4ingBid
7Chance
;seSt
8ountry
7Multiplier
7Number
=s
>For(a
>Picked
7Outcome
7Pot
8rice
9oject
:posal
:tocal
7Score
7Team
;Id
<ndex
;Set
8icket(b
=Number(a
=s
7Value
8ote(d
7_bets_total
8country_string
8month
8ticket
8year
7addr
7s
8Claimable
A(b
4ovate
3s(a
5b
4Reported
2pe(da
4Attributes(co
4BlacklistedAccount(b
2reInvestInUSD(baa
:ment(baa
4Limit
4Purchase(ba
2shes
2thDraw
8(a
9b
8?(a
8Back
8Eth(a
8Fees
9unds
8Money
=(a
8able
9l
:ether(a
8locked
4Referrer(b
4daw(a
5r(a
6aw
8(<AccountingLib.Bank storage>ba
:Bank>ba
:DAO>
:NettingChannelLibrary.Data storage>jjd
:PresaleLib.Data storage>
9a
:a
:b
;a
;c
:edda
;k
:j
;g
9b
:a
;a
<bedd
;b
;da
;f
;gh
:b
;a
<ab
=c
;edd
>edd
:u
9c
:abj
9d
:a
;bab
:b
:cc
9e
:ddaa
9f
9g
:hg
9iVj
9jjd
9l
:a
:la
9nci
9w
81
9(a
:b
82
9(a
:b
83
9(b
84
8ABIHash
9LC(a
9RT(a
9TN
;(b
:okens(b
9bleEther
9ccumulatedFees(b
:quisi~s$
9ddress
?(b
?Update(b
:min
:visers$s(ba
=or(ba
?$s
?s$s(ba
9ffiliateCommision
ARewards
:ter(b
=18Years(b
=End
9irDrop(ga
;drop$s
9ll
;(b
=g
;Eth(b
>ToOwner
>er
;FromRoot
?$(a
<unds
@From&
;ToExchange(ba
=Owner
=Withdrawal!
=ken
@s
A(b
AFrom=
E&(b
;Uncommitted$s
;oca~
<wance(bb
:tcoin$s(b
9mount
>(a
@b
?ba
>ETH(a
>From$(aa
>To(ab
@ken(ba
>s(b
9ndSend
9rbFunds
9sset(a
9tOnce(a
:tacker
9uc~=
F(b
Fs
9vailable$(ba
8BAT
;(a
9NB
9ack
:lance
?(a
@b
Aa
?All
@mount(a
?Cut(a
?Difference
?FromStorage&
?MaxSteps(a
?s
@(b
@ToLogic
BNFC
:nk(a
<roll(a
Aba
:seERC20(b
=TH
;ic$s(b
:ttleValue(a
Dba
9eneficiary
>t(ba
:t
9id(<InteractiveCrowdsaleLib.InteractiveCrowdsaleStorage storage>
<a
;ForCollectible(aa
>Punk(a
>Sketch(a
?tar(a
9oardMeetingFees
:nd(5baa
=6baa
=a
<Reward(b
<s(a
;us
=(a
=$
=es(dabab
:th(aa
=baa
:unty
>(b
>AndAdvisory
>$s(ba
9tc(ja
9uilding$s(b
:yDemand(a
9yAdmin_Unau(h
:Emergency(c
:Founda~(ba
:Mint(ba
:Resque
;ndNo(a
:Team(ba
8CAT
9ashReserveFund
9ell(a
:o(b
:rneu$s(b
9hamp(a
?b
:i
:unk
9lone$s(b
9ntr(a
9oinToOwner(a
Dba
<drops$
<s
=(ba
:llectedResources
:mB
;ission
;misionTo!(ba
JAltCoin(ba
>sion
B(a
Cb
Bs(a
<unityPot
A$s(ba
:nfirm(ab
;tract=
G(b
@Ether(a
@$(a
Es(b
=ibu~
Aors$s(ba
=ol
:oldown(b
:reTeam$s
:unt
=(b
=ries$
9reator
;dits(a
:owdsaleDragons
AOsherCoins
A$s(ba
:yptoCurrencyNetwork$s(b
9ustom(ab
8DRPS(a
;U(a
9ai(ab
:te
9eadBids
<Fund(b
:ferred
:lay
;ta(a
:posit
?(a
?orFunds(ba
:v
;=
;Fee
>s
?(b
;elopersCut
BFund(b
9ifferent$(bf
:rectDebit(b
Dgf
:stribu~CRL
:vidend
@s
A(b
;s
9ona~
@s(b
9ragons
?Film
?Prime
9thShop(b
?Admin(bb
;Teller(b
9ukeOwnersMoney
8EIP20$(b
9RC20(ba
?b
@a
==(a
Ebb
?tch(bg
=Compatible(daah
=ToOwner(b
?ken(b
Da
Db
BTo(bba
Bs(b
Eba
=s(ba
9TH
;(a
<b
=a
9arly(b
;nings
@(a
9nabled
9quity(af
9tc(ba
:h
;(a
=bd
<b
=a
=ba
;2|(a
;=
BSave
=tch(g
;From=
;Pool(aa
;ToOwner(a
;er
=(a
?b
>b
?a
>daah
>i
>l
=All
==(a
=FromTrade(a
Acontract(a
=HomeExternal
ALocal(b
=InBatch(gh
=Manually
=OnlyOwner
>rThrow(a
=Remaining
=To(b
Aa
?IfPossible(ba
?Owner
?ReserveEscrow
=eum(a
=s
9verything
B(b
9xcess
>(b
>Reserves
>$(b
;hanges$
:tra$(b
Bs(b
8FactoryResource=(k
:iledOldOwner;?
9ee
;(a
<ba
;Entitlement
;Rate
;s
<(a
=b
>a
9inal
9lag(baa
9or(b
=a
>aedd
>edd
=b
;Company
;FiveStep
?Year
<ourStep
?Year
;Many(g
;OneStep
>Year
;ThreeStep
@Year
<o(bba
<woStep
>Year
;Winner(a
<orkshop
;eign$s(b
Gf
:unda~(ba
BFunds
=erFunds(a
?sTeamAndAdvisors
Aokens
9reeAuc~=s
<=
:om(b
>a
>b
<Amt
<&(ba
=ustody(abb
<Escrow(bd
<FailedLottery(i
=ee=
<Manager(ab
<Pot(a
=roject(ba
Eba
<Remaining$s(a
>serve(a
Dba
<SubRound(a
<Ticker(a
=oken(<IERC20$>ba
Bbba
;zen
9ull$=(b
:nd
<(a
>f
<Beneficiary
<To!(b
>Owner
<er(b
<ing
<s
=(a
?b
>b
?a
=Advanced(baa
>ndStart$
=RP
=ToOwner(a
8GNO
:T(a
9TO
9alactic$s(b
:s
;Cost
;Payback
9emmyMusic(ba
9ift
9oldMoney
9x$s(b
8Havvens(a
9ouseCutFromGame(a
=Earnings
=Stake(a
8ICO(a
;Eth
;Reserve
9QT(a
9d
9nBatch(ggh
:Emergency
:Progress
:Wei(ba
:centives
:vestment
B(a
Bs
CBeneficiary(b
;iteReward
DToOrder
9tem(ba
8JOY$s
9ackpot
9uror
8KRI(a
9ittenCoins
9rowns(ba
8LRC
9atium(a
9eft
<overWei
C(7
D<CrowdsaleLib.CrowdsaleStorage storage>
EDirectCrowdsaleLib.DirectCrowdsaleStorage storage>
:galContingencyFunds
:monCoins
=tokens
9imit
:quidityPool$s(ba
9ocked
>$s
<up$s
:ngTermFounda~Budget
8M5
9ILs(a
9ana(a
<gerBonus
:rketingAndCommunityOutreach
:tingRequest(a
9icroDivs
:nt$s(ba
9kt(ba
9ln(ba
9obileAppCoin(b
:n(l
;ey(a
:rtgage$s(b
9yDividend
:Funds
:token(a
8NAC(a
9ac(a
;NetfRe(a
AController(ab
9etfRevenue(a
:xiums(b
9oLimit(ba
:mins(a
:nTop(a
>ForTeam(ba
:tA$s(b
;ifica~(a
9xc(ba
8OfferForCollectible(aa
9ld(b
;$(ba
;er
9nBehalf(acaedd
Ab
@Of(b
:NoAvailablePlan
9pera~Fees(w
AalExpenses
9rderRefund(a
CToOrder(a
9therEDEX(b
>RC20=(ab
=$s(b
9verdraft$s(ba
<flow(b
<pay
9wner
=(a
>ba
=2(a
=?
=Eth
@(7
A<CrowdsaleLib.CrowdsaleStorage storage>
BDirectCrowdsaleLib.DirectCrowdsaleStorage storage>
Aa
=Fee
=$(a
=Unrevealed(ab
=sFunds
>Money
8PLAT
9RS$s(b
9UB
9art(ba
<ial(a
:yment
?s
@(b
@Registrar(ba
;out
>FromBet(a
9ending?s
?=(b
?Transac~s
9lat
9olicy(aaab
;y
<(a
:nzi(a
:t
;(c
9reICOEth
<coFounds
;Signed(babaabedd
:ize
:ofit(ba
;moter
;posal(a
9urchased$s
8QR(b
9uantity
8Raised(a
:ke
9ecord(b
:f=
;und
>(a
>s
:mainder
>ing(b
A=ForManualRecovery
AIPC$
ARewards
A$(ab
Fs
G(a
:nt(b
:quest(bd
:serve
?(b
?d$s
;t
<Of=
<ric~(b
:venue
?(a
:ward
>(b
>For(b
>Pool(ba
>ed$s(ba
9ound(a
=Controller(ab
:yalty
8Sale(a
<1
<2
<3
<=s
<Manager=s
<Request(a
9elect(b
;lDemand(a
:rviceFee
9hare(b
=dExpense(ab
=s
>(b
9oftwareProductDevelopment
:me(a
9take
=(a
=$s(a
Eb
;ndard$s(b
;rt
=(Uaaa
>haaa
:ep
:ocks
;re=
:uck
;dios
9ubRound(a
:ccessful(d
:m
9yndicate$s
8Talao(a
9eam
<(b
<Funds
<Pot
<$
A(b
As
B(ba
9heUnsold$s
9ime
:p(a
;s
9o(ab
=j
;b
<a
=bj
:!(b
<ress(ba
:Buyer(bba
Ag
:Cooperate(ba
:Exchange(ba
:Founders(a
:Investor
:Many(g
;ultisig
:Owner
?(a
:Partner(ba
;latformFunding(a
:Team
>(a
:|
@(a
:ken
=(a
?b
>b
?a
@b
@c
?b
@a
Abaab
==(ab
=From=(bb
ACrowdsale(b
AElc(ba
APkt(ba
=Manually(a
>ulti(gh
=Payment
=Share
=To(bb
Ba
?ClientAccount(ddba
?Default(bbaaab
?Founder
Fs
=s
>(7
?<CrowdsaleLib.CrowdsaleStorage storage>
@DirectCrowdsaleLib.DirectCrowdsaleStorage storage>
@IERC20$>ba
?a
@b
?b
@a
@b
Aa
?f
?g
>1(a
>2(a
>3(a
>4(a
>5(a
>Approve(bba
>For(b
AEtheeraTeam(ag
?rom(bbba
B&(a
Custody(babb
BWithSignature(bbbaaaaj
>Remaining
>To(b
@Advisors
?ransfer(bba
FFrom(bbba
>Wei(a
:p(a
;ForTeam(ba
;Up
:talDevEarned
9rackOf(c
:easury(a
9une=s
8UnallocatedRestricted$(ad
:claimed
;ommitted$s(a
:locked$s
:sent$sForOwner
;old
>$s
D(b
9serSpecifiedFunds(cae
8VNET(ba
9PC0x$s(b
;x$s(b
9alue(f
9ested(b
>$s
9otingRights(a
8|
>1
>2
>3
9bt$(ba
9ei
;(a
9innings
@(aa
:thFee(baa
Cf
Bdbaf
<Reference(bac
8XNK(b
9PA(ab
8YOOMap(b
8ZOB(a
9RX(a
8_1
:Completed
92
:Completed
93
:Completed
94
9Eth(a
9Leim(a
9a_bit(a
:dmin(a
:ll
<_admin(b
=funds
:mount
:rbitrary_token(b
Ja
9badge
:onus
;unty
9dao_fund(ba
9eth
<(a
<er
:xcess_tokens
F(a
9funds
>(a
9if_failed
9my_tokens
9privatefund(f
9refund
9team_fund(ba
:o(baaa
;_eti
<owner
<reward_contract
;ken(a
?b
@a
>_and_eth
>s_for(b
8able(b
<?
BFor(b
<=
9l
:(a
<ba
;b
<a
=a
<ba
:1
:2
:!
AFixed
;ll
=owed(b
:Complete
<olingPeriod
<unt(b
?er
:Delay
<ployed
:Enabled
;th
=(a
:For(aa
;rom(bba
;unds(f
:Initiate
<terCrypto(cc
:Limit(b
<st(hb
;ock@
:MoneyBack
:Normal
:Open
;wner
:Paused(b
;eriod
;rofit
:Range(aab
;equests
B(b
:T4T
;ime
>Of(b
;o
<ken
?(a
@b
?s(bba
:Value
:_Eth(a
;Lem(a
;delay
;gas
:s
;(a
<b
=a
;CTR
;Initiated
;Votes
@(ba
8bymanager
8ed
:(bac
:?(b
:$s
9r
8funds
8l
9(a
9=
9Deadline
9Enabled
9Owner
9s
:Enabled
8n
9(b
:d
9?ForSalePromo~
9=
:yBeneficiary
9Melon
9Readable
9Team
:okens
?(b
@gb
9_balances(d
8s
9(a
:d
9Count
8time
6ew
8(b
6owETH
9rc20(bba
8$s
>(ba
4hold
8(ba
4inLimit(a
;s(a
6Period
6RefundPeriod
4rawFee
3ness(db
7Of(a
7es
3rhdraw(a
2zzPandaCount(a
9Quota(a
1l(b
2Dura~
2Index(b
2StartBlock
4opBlock
2contract
1max(nn
2in(nn
2ul(nn
1nFromGas(a
1oe
2lf2=
43=
44=
3k!
4Fund
4Genesis(aaabb
>b
4Inc
4Sale
2n
3derArray(a
6ForSale(a
6Id
7ndexToOwner(a
2od!
4worksCities(a
2rdSize(c
4list
3kAdopted(c
4Done(b
4OrderCallback(bccc
4Stages(a
4@List(a
4edTodayInSeconds
5r
6PoolHub
4ing
7Kebaber(b
7State
4s(a
5hop
3ld
5(aaa
5&
6upIdTo!ForApproved(a
<Owner!(a
8ResultPart1
B2
B3
B4
3mholeIsOpen
3stCaseRateFactorInBps
2tDay(a
1p$sBaskets
2p
2r
2xTeam!
1rapped&
6r
2ite(j
5Conversion(cbaa
5Index(accaa
5Message(c
>ccc
Ac
5NextId(a
5Rate(ca
5rAccountSupply
CRemaining
2ongClaimerOrUnsetInManager
5ManagerOrUnsetInClaimer
1sub(nn
1uguAddr
2xiaMaster
;^
1w(e
2amICOcontract!
2withdrawww(a
0x
1(babadd
115
1IPFSPublicKey
1$Percent_
1ac~FeeNumerator
:Share
2po
2uToEur
3rCoined
4ForGasLimit
4umProxyWorking
1cc
2ertKyc
2lusivecoinSupply
1dest
1em
1fer(<Holder><Holder>a
1masFund|
2r
1notifica~s(a
6y(c
1orReduce(oa
:pa
1p$!
2aAsset(a
3Exchange
3FundDeposit
2er
4$
1ra
3_amount(b
4sent(b
3teProviders
>(a
2t
1time
1xx
0yaaay
1ea
3r
41Lock!
5Unlock
42Lock!
5Unlock
43Lock!
5Unlock
44Lock!
5Unlock
45Lock!
4Cap
4For(a
4Length
4OfProduc~
5neMultiplier
4Seconds
4ThreeClaimed
5woClaimed
7Multiplier
4lyBlockCount
6Fee
6Interest(a
6MintCap
6Owner$Withdrawal
6RewardPercentage
6Team?
:$sPaid(a
4team
8_trade_date
2ed$
2s(aca
3Buyer(aa
3&
5unt
8(a
8er
3Hash
3$
3VoteSum
1m_index(a
3totals(K
1oobaTeam!
6oken!
2shicoin
2uCollect&s(b
3rShares(b
0zGetBoth&=s
4Game=
8ID
1HQNumber
1IncrementGameID(a
1Kill
1ReceiveFunds
3fundAllPlayers
1SetGameID(aa
2ynchGameID(aa
1;FundsToOther&(a
Awner(a
9LosingBets
9WinningBets
1apVillain(aa
2zSupply
1cc
1ec
3Id
2n
3OSCrowdsale
2roBonus
4Fee;Byowner(bba
7s;(bba
4Out
4_fee_transac~(bba
Ha
4marker(b
2thrBuyIn
1getOther&
5wner
4Players(a
1huchu(a
1illa_remaining
4erium$
2nt_bytes32ToString(d
5convert(c
1lotsJackpot
1oCreated(a
2DailyLimit
2LastRefresh@
2^
2mbieToOwner(a
6s(a
2ne(SS
4_reverse(a
4s(u
5Swarm!
1rx$&
1sjz(acc
2s
3(b
1t$
1xcSold
1zz"

end Listing
end EvmFlow
