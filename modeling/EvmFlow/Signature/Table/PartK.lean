/-!
# Known signatures, part K
-/

namespace EvmFlow
namespace Listing

/-- Known signatures from `mintingGoal` to `preicoStartDate`. -/
def partK : String :=
"0mintingGoal
7IsAllowed
9Finished
7Nonce
7Oracle
7Paused
8reIcoFinish
7Start@
:te
9opDate
;ped
7Threshold
4list(gh
5vl$(ba
4me
4s(a
4vested$s(ba
3us(aa
5FreezeEnd@(aa
:ing@(a
Ca
Cl
5TourFreezing@(a
Ga
Gl
4tesInPeriod
7ToPost
7total
5os
3wei
2scNotLocked
3sedVerifica~Slash(aaa
G?
4ingFundsToEndAuc~
7$sFallback
5on
7s(a
3taken$s
2x(aa
3Auto(aa
3DNK(aaa
4na(aaa
3Formula
3Genes(aa
;a
9yyaaa
3edStack(da
1ktCoinCap
3Supply
3$Cap
3Value
8updated(a
1lDevelopers
2n
1mLib
5!
2VaultAddr
1nt$
3pMigra~Indexes(b
=s(a
>Count
4ToMigrateTotal
6ken
2yLeftInCurrent
1obilinkTeam!
3ster=s(b
7IndexToApproved(a
>Owner(a
2ck(a
4@(i
2dCEO!(b
4FO!(b
3e
4(d
4l
5(b
5IndexToOp~Count(l
5Of(b
5_accuracy(a<int256[3][]>
>_criteria
4rList
5ator
9;From(bba
9s
:(a
;b
3ifica~Fee
5y(ba
6AllLevelCaps(h
Da
6=(ba
6Cap(a
7eo(b
7fo(b
7harity(ace
8oice(a
7lose@(a
7ollector!(b
8mmission(aa
8ntact(bc
=Manual(abc
:entAccess(dfa
7urrentHardCap(a
>ero^(aa
=VideoGameItem^(aa
F^(aa
6Descrip~(bc
AManual(abc
6EndFunding@(a
6FeeShare(a
6GameItem^(aa
7ovtAccount(b
6Horsey(abdee
<Dna(ad
<FeedingCounter(ae
<Tier(ae
6IndividualCap(ba
7tem(cbabn
6LevelCap(aa
>s(h
7ocality(c
6Marking(da
8x&=(a
7essage(c
8tadataHashes(addoj
6NextCap(aa
:PremiumSale(ea
6OpenStatus(f
6PMTAccount(b
7ow^(aa
7riceCountry(aa
9vateList(gf
8oductLimit(da
=^(da
Ea
7ublicKeySize(e
6RandomNumber2(a
6Slogan(ac
7takerLimit(a
9rt@(a
7upplyLimit(a
6TaxRate(a
7oken(baccccf
;Fee
;^(a
Ba
7ransFee(a
;ferableHash(bf
6WhiteList(gf
;list(bf
@gg
?Multi(gG
6airdrop(a
?a
3ule
6List(ea
6Registry
6s
7(a
8b
8ea
5tradeStorage
2eda$
2ken(a
5Bytes32(a
5Data(a
5Era(a
5Id(c
5Name(a
9Bytes32(a
9Exists(c
6oName(a
2ld(da
3eculartechnologySupply
2m
3Fab
2nToTrainer(l
3arch
7sByNumber(a
7yEndReward
8StartReward
3etarySupervisor
5haGateway
7Vault
4yBack
9(b
5Freeze
5Manager
5Spent(b
6umAtSettlement(baamaa
Gma
5Total
5|
5back
9addr
3sterAuc~
7Class(i
8reator
8urrentNumber(a
7Flee@
7Health
7IdToGenera~(a
;IVs(aa
;Nickname(a
;Tradeable(a
8ndexToApproved(a
>Owner(a
7Strength
7World(l
7sForSale(e
3th
512Allocated
7Unlock
7companyUnlock
68companyUnlock
524Allocated
7Unlock
7companyUnlock
530Allocated
7Unlock
548Allocated
7Unlock
560Allocated
7Unlock
6companyUnlock
5Length
5Open(a
5Power(ab
5Withdraw
5lyMinting
7^
7Subscrip~Cost
7WithdrawLimitInWei
7_token_growth
4ly_pay
3uments(a
2o
3d
3nInc&
2p
2reThanSoftLimit
5okenPerEtherForPresaleRound
DSeedRound
3tal
4gage(b
4ies_TO_HATCH_1RickAndMorty
2stSent
2td
3herCount(i
3ionConfirming(a
6Passes(a
6Start@(a
6Target(a
6Voting(a
6Waiting(a
3to
2untCitadel(b
2ve
4(ab
5b<int64>
6ba
5eajedd
6jedd
5kee
4AccountData(goh
5ll$s(bq
=To!(qb
4BlockValue(beeeea
?eeeea
4Ceiling(a
5harge
4Data(<uint128[]>gGh
8&=ToWorld
4ERC20$s(bba
7721$s(bba
5ther(ba
4Floor(a
5undToOwner(a
8s
6rnaceData(gNhGh
4IcoEndDateByOneMonth(a
7$s(bba
4MarketData(h33<uint128[]>g
5int$s(bba
4OldUser(a
4PatentData(NghGhhh
5roduct(bba
4StageWithdrawn
7rtDate(a
4To(a
6Area(k
6NextCeiling
6RST
6Safety|
6Waves(ca
6kenToAccount(ba
9s(b
<a
<qa
:FromSaleToCirculating(ba
DExchange(a
?tockToExchange(a
ESale(a
:To!(qba
4Units(aaU
<h
6sold
:(b
:$s
@(bb
@ToFounda~
BICO
4_history(a
3ieIndexToApproved(a
<Owner(a
4ng
1p
1rate
2k_contract
1sgMap(a
3Sender
3s(b
6a
4WaitingDone(a
4ender
2p
3Controller
1tEnd@
2Start@
2cDailyLimit
8Spent
3LastDay
3Rate
2d?
3Pre?
2r&!
3x
2v
1ul(aa
4mm
3256By256(aa
3Factor
3Pay(gh
3;(ag
3XY(aaa
3bonus
3tAirdrop(ga
4Denominator
4FracCeiling(aaa
4Numerator
4i
5AccessAddOwner(b
CD(bb
;Call(baj
?D(bajb
<hangeOwner(bb
FD(bbb
ARequirement(a
LD(ab
;GetOwners
;HasConfirmed(db
;IsOwner(b
;Owners(a
;Recipient
=moveOwner(b
FD(bb
=quired
=voke(d
AD(db
;SetRecipient(b
GD(bb
6dd(g
:h
8DSource(oh
6irdrop(gh
6pprove(gh
=h
6sset
5BatchSafe;From(hgg
:;From(hgg
6lockRandomGen(aa
6urn(h
5Call(gh
9TightlyPacked(o
7ncel(h
6onfirm(h
6reate(aaa
5DecreaseApproval(gh
7lta=s(gbg
6istribute(h
?AdviserBounty(hf
5ERC20;(bgh
BTightlyPacked(bo
5Freeze(gG
;With@stamp(gh
5Generate(bgj
6uess(B
5IncreaseApproval(gh
5Lock(g
5Merge(g
<h
6int(U
:ah
<a
:ba
:gh
<c
:h
9Bounty(gh
9PreIco(gh
<ico(gh
5OperatorSend(bghjj
6wnableCreator
8erSides
5PartySend(gh
Aj
:;(ga
Dh
BFrom(bgh
6resaleMint(gh
6urchase(wpppc
5Send(ag
:bbgh
;ga
<h
:g
;h
9Eth(ag
=g
9From(bgh
7tWhiteList(h
6ig
8!
8Output!
8|
>!
6ubWithdraw(g
@For(gg
5;(<uint256[2][]>
>ag
>bga
@h
>ga
?h
>h
=Decimals(gh
=From(bgh
AValues(ggh
=TightlyPacked(o
=Value(ga
Bs(gh
5Unlock(g
5ValueAirDrop(gh
=drop(bgh
:Batch;(gh
6esting(ghhh
5|
6ithdraw(g
5hash(d
5locked
5mint(gh
5owned(ga
5ple
8Ping(g
8Shot$Reparti~(aa
8$Distribute(bgh
9ransfer(ga
Ca
Bh
7icate(b
;or
8er
:(b
:Factor
:Of^
;nWin
:Percent
:s
;(a
7y(a
:a
9b
8$sSend(gh
5send(bdgh
;ga
<h
:g
;a
;h
92(bbgh
93(ghhgh
9Eth(gh
<er(gh
9From(bbgh
9$(bgh
7tCustomGas^(Ug
Ghg
8ProofType(Ug
Bhg
8UserCategory(gab
6ig
8!
8DXF
8ETH
9ther
8Funds
8Owner
8PreICO
8Vault
8|
8_owner
8n|
9ature
8s(a
:d
8wallet
5tokens(a
;Count
5vestBuy(ba
?a
>c
>edd
=dedd
9Mint(baedd
4y;(gh
6x(<address[100]><uint256[100]>
2rder
2scFund
8Deposit
3tHoldFor
4Kyc(b
4ToSellCourses
2table
4gen2Face(aa
<&
4te(dd
3eMe(f
3iSendCoinWithDifferentValue(bgh
@SameValue(bga
8ETHWithDifferentValue(gh
?SameValue(ga
1vnpereth
9Bonus
2pExists
3LaunchedAt
1x(d
1yAccount
3ddr_test
6ess
9es(a
3vailableFunds
2Backer$
4lance
3etsInLap(a
3onus
7(a
2CoinAge
4lorIs
4mpany
2Data
3ividend$s
:s
;(f
3ona~(b
2Earnings
3ther
7Bros(b
;Count(b
2FinneyValue
3ounder_(b
:PID(b
3rontEnd$s
3undsExpireIn(a
2ICO
3nfo
4ner1
72
73
74
2LatestBid
3oseShare
4veBlockCount
;s
2PendingPayment
3rofitsReceived
2ReferralDividends
:s
5und(b
4ward
3ole
2Share$
3takesOnCountry(a
8SharePercent(b
4orage(a
2Tarif
3oken
7s
4talStake?
8upply
3ulips
8Batched(ak
2Unclaimed$s(a
3ser|(b
6name
2VoteFactory
2|s
3eapons
4iValue
3inShare
4shes
2_message
3token_balance
2can(ba
5money(ba
5time(ba
3ontracts(ib
2steriumPricing
2thexCostPerUpgradeLevel(a
6$!
4ic(a
2useOf(b
0n
1!es
2larms
2uditors
9Alarm
9Required
1Ballots(d
1CanOpenRewardMinEth
2eilings
2urves
1Democs
3posits
1Edits
1Fund
1LuckyVoters
1Msg
4sWaiting
1Payments
2latCurTotalEth
2roposals
1Refs(b
1Sign(a
2tages
3eps
1Tickets
2okensCredited(b
7Withdrawn(b
2ransfers
1VotesCast
1_domains
1ac=
2me
4(b
6d
5d
41
42
4Art(ac
5vailable(c
4Cat(Dd
5hange(cc
4For(b
4IndexToOwner(a
6foMap(b
4Locked
4Map(b
5iner(ac
4Of(a
8b
7b
6Identity
6Owner(b
4Registered(dba
:ry
<(b
<!
4Successor(b
4Taken(a
5oApproved(d
6Record(d
4Value
4_
5pID_(d
4hash(c
8!es(d
8Finalized(d
9orHash(d
4list(a
4s
5(a
6b
5paceTaken(d
3iCrowdSaleAddr
4MultiSig|
4Pool(ab
5resale
2pkin^
2rcoCore
5IndexToApproved(a
<Owner(a
5sByDistrict(e
8Owner(b
2sdaqo(acc
2~ality(b
4veInvestors(b
?Ids(b
6Reputa~
6$
3uralUnit
2vAdmin
2y
1bBackerWithMoreOrEqualTen
2MonthsPay
1dc
1eWon
2arestKnownBlock
AHash
2cash$
3ropolis&
2edApprovesToConfirm
4DelFromAdminInfoList(b
4FightToAdult
4Release
4ToAddAdminInfoList(b
6GetFree
4Update
4Verified
<Account(f
4ed?Total
6Confirma~s
6Signatures
4sAdministra~
6llowancePayment
5Birth
6lockFinaliza~
5Ether(c
5Finaliza~
5Initializa~
5LotteryFinaliza~
5Processing(a
5Tick(<Game>
?Lib.Game storage>
5beneficiary(a
2g(a
3ativeVotes
3lectGuess(m
7Owner
4igibleRateDiff
2ighbours(aa
:Area(aa
3ronixProfit!
2o
2t!
4mountBought
3&=
3Outcome$sSold(a
3ting&sBy!(b
3work
7(b
7DevelopmentSupply
B|
7Growth?
7Id
7Name
7Placeholder
7ReserveFund
7State
2umark
7Cap
3roChain!es(b
5DAO
5dao
2verPauseAgain
5dieSigner
8$
2wAccount(cj
4d(ac
5dress
4gon(ll
4lex(b
4rt(cc
6work(daccca
4ssociate(b
4tomFee
5tack
9(w
4uc~(al
:ID
4ward
3BP(fbaacc
4atch(d
4eauty(ca
5n(b
5t
6(e
4id(d
5tso!(b
4onus_and_newPeriod
4ribedCitizen(b
4urnableOpenPayment(ba
Iacc
Ieac
Ifac
Hcaea
3Cajutel
5ller(b
5mpaign(baa
<i<uint96>kk
=a
5rID
6ProductID
6d(a
5sh
5tWithAd(cc
4hallenge(ll
6mp(aaaaaaaaaafb
6nnel(<ChannelManagerLibrary.Data storage>ba
;ba
<baaab
5ief(ba
5ow(b
4laimer
6ssPlayer(aaiiiiiii
5ient(ab
5ockmaker
4oinOwner(b
5llectible(acaaacac
5mment(ac
5nflictRes
6tract(b
=ba
<cgcda
<j
;Addr
?ess
8oller
5st$(a
4rowdSale(ccca
8sale
4s(b
4urrency(cce
3Dad
5oRulesProposal(aaaaafa
Jba
La
5y
4eal(<>aaaa
8aaaaa
8bbbbaaaaaaaa
5posit(eb
:Commission(a
<ntract(bb
:|(b
4oc(db
4raw(a<uint8[3]>aaaa
5eam(bcc
4utch^Rate(aa
3ETHUSD^(c
4mployeePoolPromille
4ndDate(a
5glandBets
5ter|(b
6ry(dddqAqdd
4scrow(bbd
4thBackedLoan(i
6erDeposit(a
8delta(b
4vent(agaa
4xchange
;(babba
5it(ba
:w
7|(b
3Fact(cc
4ee(a
6PercentageIsSet(a
6d(c
4orgeCon(b
5unda~Candidate
3Game
7(aa
:a
9uaac
8ccaaaaaa
9d
8d
9aaa
5n$(a
5sLimit(a
4lobalChanceNo
4rant(baaaaf
5oup(ciaiiiiie
9gaa
4uard
5bberment
3HighestBid(ab
3IcoRound(aaaaaaa
4dAuc~Entity
5Ship
9Product
5Tank
9Hull
9Product
9Weapon
4ncome(c
5itialPlayerOffering(ccaabae
5tegrityFeeProposal(ac
5vest(aba
:ba
<a
9Commission(a
9|(b
9ment(ba
9or
;(kbaa
4ssuer
4tem(eeaaaaaffb
3Jester(b
3King(b
4raken^Ticker(c
3Leader
4ock@stamp(a
7Up!(b
5westAsk(ab
3Manager
:(b
5ster(b
9Copy
4edia$(aecc
=Created(cbc
5gabox(baa
5mber(b
:edb
9s
4inimalEthers(a
8um$s(a
4odelShipProduct
7rator
5m(bbb
3Name(cc
3Op~(aadd
4raclizeQuery(c
;Result(dc
;SetProof(c
5der(baa
9faaaa
4wner
8(a
9b
8Candidate
8Temp
8shipFeeProposal(ac
3PLCRBYO$(b
7With$(acec
4arameterizerBYO$(bh
@With$(acech
6ityOwner
5yOutPercentageIsSet(a
6ment(aa
:!(b
Cs
4eriod
9(a
4lay(aabaaaaa
7er(baa
4olicy(ddaaed
5nziFriend(a
5ol(<PresaleLib.Data storage>abaa
4resale
7serFee
5ice
8(a
:a
8DecreaseRate(aa
8Ticker(c
5oject(cca
6mo~(cccaaaa
6posal(abac
=cd
<baaffbaaaa
>cd
?j
@af
>jj
=c
<c
<dbaeaj
?j
;EthUSDOracle
;InEther(bacj
=Wei(bacj
;log(c
6vider(bcda
4uppet
5rchase(bee
?i
3RC(aa
4aceDistCon(b
5ndom(c
9Byte(j
9Value(abaa
?jba
5te(c
7@
4efundProposal
5gistryBYO$(bhc
;With$(acechc
5plyEvent(aacca
5quest(a
5solu~(cc
5viewer
5ward
4ound
4ubesUntilPayout
3SaddleryCon(b
5le(aaea
8qaa
7Projects(ccca
4eed
5ll(iba
4hip(kaa
4ignedDoc(db
4paceshipProduct(kIIIIa
<Upgrade(Aea
4tartDate(a
5orage(b
4ubdomain(ccbb
=dddbb
3TankType
;(aaiiii
5p(b
6ProposalFromCompany(a
B$Holders(a
4eamCreated(dWWWWWW
7OnEnd(klll
=lll
5chSupport
4hreadEvent(acca
4ickerQuery(cd
>Result(cd
5meLocked|(ba
4ok(d
6en
8(cb
:ca
8&!
8Deposit(baa
8Owner
8^
8UnlockPercent(a
8Wei^
8s
9(a
:ba
5p(bb
4rade(ccaa
6nsferManual$snew;(bba
;Proposal(bc
4ub(bbbbbbbbb
5neOp~(iiaffnl
3User(<>c
8ac
7BonusCardTradable
7Reward
=Pool
7s
3Version
:Released
4itaReward(b
4ote(ac
8bcaaaa
6ing(c
:e
5wIdFlag(baa
5x
3Wage(k
4inner(aaba
;baaa
5thdra|(b
:wCommission(a
3XPAAssets
4cat(dbcacaa
3Zeus^Ticker(c
3_bonus_for_next_period
4game(aa
4mainPlayer(b
4record(bba
4tablet_created(bdb
3first_player(b
3incomelog(ac
5itialSupply(a
3owner
8(b
3ponzi
3s
4(a
3user(bb
3vow(ab
2xium
3t
4(<!List.Data storage>b
6Data>b
6Iterator>
?f
5a
5cccccc
4Ac~IsAuthorised
5ddress(b
5mount
5rena@
5ssetId
7igneeIndex
5ttack@stamp
4BackWindowAdjustmentRatio
5id
7ExpireBlockLength
5lock
5onusPayout
9StepLimit
6undary?
5ro
5uyout^(a
4Campaign=
6ndidateId
6p@
5heckpoint
5laim
9(b
5ommonTTM$Id2
D3
D7
D8
<W$Id2
6ntract
9ibu~Cap
Cs(a
=orIndex
DToBeGiven$s
?ToReturn
9oller
6urse
4DealIndex
6positToPayout(b
6rivative$
CScheduled
C@
5isbursement
7countTTM$Id1
F6
>W$Id1
5ouble(b
5raw
8@
4Elec~Index
5nd@
5xchangeRateIndex
4FeesPerMillion
5ieldIndex
6nal@out
5lexibleReward
5orkBlockNumber
8Name
8Url
5reeCount
8Tier
8ze
6ontWindowAdjustmentRatio
4GameCost
8DeveloperMiningPower
8Id
9nitialMinBetSize
8MaxBlock
9inBlock
8PotSplit
8RakePercent
8SeedPercent
:ttings
5en
5iftId
4Holder(b
4Id
6entityAccount
5nListToReturn
6putProfit
6vestorsProfitSum
4Jackpot@
4Key(a
4LapId
5otteryTTM$Id10
E4
E5
E9
=W$Id3
E4
4MaxPlay
5inPlay
7eEvent
8Id
7imum@out
7t
8PossibleDate
@@
8@
4NextBid
5once(b
5umberOfWagersToFinal@out
DMinimum@out
4OffsetIndex
5rder^(bba
5wner
4PE
5VPBatleBlock
5articipantIndex
6yeeIndex
7ment@
7outBlock
:Goal
:WhenPyramid=TotalsApproximately
5eriod
5oolPercentage
5remiumSale
6ice
9(a
;a
:k
91Of(a
92Of(a
9Date
9Of(a
;Element(a
7zePool
=Percent
9@
6ofile
7miseId
5unkIndexToAssign
4Rate(a
5edemp~Request(a
6lease?
;Date
;@
6ward
:(a
:PlayNo
5ound
9Cooling@
9Dona~
:ura~
9Fee
9Id
9MaxDonors
9Reserve
9StartsAt
9Winner
5une(C
:C
4Sale
8Agent
8Id
5eason
6edHashA
<B
<ed
6ll@(b
5hare@
5kinId
5napshot@
5tage
9(aa
9Emission
7rIndexToAssign
7te
6eal@stamp
7p
8(a
5upplyAfterBlock
4Target
6skId
5haw
5icket
:^
6er
6meout
5oken!
9Owner
6urnamentBank
>Round
5radeEvent
4UnLock@
6derdogPayout
6lock@
5pgradeAgent
;Master
5serId
4Version(bd
;!
4WeaponID
5ithdrawal
>(q
4_diary_id
6raw(daaaaa
5giveaway
5id
6tem_index
5payout
5round_players
5stone_id
5tower_index
5week_timestamp
4marketoffer
4priceOf(a
4roundERCtradeactive
9GOTCHatcontract
9blocksbeforenewpay
9length
9soldierreplenishrate
<sforhire
9totalsupplyGOTCH
4size
1fsPoolCount
7Left
7;(ba
2t
3!
3CollectibleAttachments(aa
5ntract
3TeamIdToSequenceIdToCollectible(ai
8ndexToCollectibleCount(a
1ic
3eGuys(a
4guy1
72
73
74
3kOf(b
4nameOf(a
8s(b
2hilum=Of(b
2nes(a
3jaIndexToApproved(a
<Owner(a
3th@
1m_players(aa
1o(aca
2Bets
3onus$Recipients
2Contest@
6ract
7ibutors
4unt
7(a
7er
2Error
2Fee;(ba
5sList
2Hash
2IcoPeriod
2King
2OfICOPhases
4Phases
4Seats
4TicketsOwned(b
6ers
5okenAlocatedForPresaleRound
DSeedRound
APerICOPhase
4Waves
4reserva~s(b
3penGameResult
2POSRewards(b
2Sales
3hares
3toreIsActive
7sSet
2$
7Locked
3ransfer(b
2VoteSum
2_aff
3of_tokens
2ah$
2dalblockShortLink(ac
3e
4(b
4Alloca~
4Check(d
4Exists(<LinkedListLib.LinkedList storage>a
4Phases
5rice
4s(a
6b
5Vars
2kuMaster$
2min
5Pool
5alValue
6teNewOwner(b
8Owner(b
8dOwner
5sIssued(b
6ReceivedForEther(a
2nActiva~ShortWithdrawal(vLex
Nzex
=Withdrawal(vLex
Izex
3EthWeiRaised
3Fungible&
;Registry
3HighestBidderRefund
3PublicSupply
3Vested$s(<$Grant>l
3WL=Of(b
3ce
5(b
5Of(b
5s(b
7d
3zero!esElementForApi(aa
@LengthForApi(a
2rmalBuyLimit
6Dragon(b
6Rate
7oomMax
;in
6Stars(a
6_trade_date
6izePledge(l
9dEarlyPurchases
3sefire^
3thadvisor
2tAllowedToDrain(b
3Collected?After24Hours
3Distributed?
3Empty
3Hungry(a
3InWhitelistAllow
3LessThan
3MoreThan
3Pauseable
3Random(a
9WithSeed(aa
3Sold$s
3UpgradableInStore
3aioAccounts(b
4pproved
4rise(d
6za~List(a
7e(c
9da
8Hash(d
5y
6Book(d
:Size
4te(baah
3e
4BallotDeployed(d
4ChainFee
4Prepurchase(baa
4$s(ba
4s(a
5Length
3forked
3hing
3ice
4fica~Fee
<s(a
6er
5y(ba
7ecc
6Authority(cc
6Burn(g
8y$(baa
6CancelSellOrder
7ollateralNotReturned(a
C;ed(a
6Deposit(a
6ExecuteSellOrder(aa
6NewAccount(bb
6OfArbitra~Request(db
Ma
6PlaceSellOrder(aa
9yer(a
8edgeNotPayed(a
6Refund$(ab
6Sale(aa
7ell$(ab
6Terminate(a
7okenIssued(aaa
;sReceived(ba
7ranfer$(abb
:sfer(bba
6Winner(ba
8thdraw(ba
6lvlClients(cc
3ransfer(b
2va!
4Coin!
6ntract!
4;(ba
3iceDungeonId
2w
3InSeconds
3Period
3period
1stDeposit
1thWagerPrizeN
2sDeposit!
1uke
4Apps
2ll!
4BonusMessage
4ified
6y
7(b
7From(b
7Product(d
2m
3Accounts
;Info
5tiveGames
9Transcoders
4dmins
5optedAxies(bef
5rs
5viserDeposits
4lloca~s
4nimals
:XType
?(e
4pis
4rbiters
5ticlesPublished
6works
4ssets
4uthorities
3Ballots
5rriersPerBoard
4eneficiaries
5ts
4idders
4locksLocked
?Dev
?Founders
4oards
5nuses
5untyCredits
4rews
4uckets
3Campaigns
5ncelledRequests
6didates
4hametzForSale
6racters
=XType(e
5ipsClaimed
8Minted
5oices
4ities
4omments
6pletedRequests
5ntracts
8ibutors
?(a
3Debtors(b
5finedGames
5posits
4igits(a
5stribu~s
@Remaining
4ona~s
6ors
4ragonTypes
5ops
3Elements
4mptyIndexes
4ndedGames
3Fabrics
5ctories
4pBits
4ree
4unders
3Games
8Canceled
9heated
9ompleted
8@dOut
3HashTypes
4odlers
5lders
3Imports
4ntervals
5vestors
3Jobs
3Leaders
4isted
4ocks
5ts
5veItems
3MC
5Applied
4arketMakers
6riages
5tches
4embers
5ssages
4inters
4odules
3OfBackers
7lloonsTypes
6locksInMinute
6oundaries
5Common
7nfirma~Needed
6urrentEpoch
5DeclaredPublicOfferingPlans
7liveredCrowdsalePurchases
>EarlyPurchases
5FinishedPromo~s
5Inflatable$s
5Jingles
5Legendary
6oadedCrowdsalePurchases
;EarlyPurchases
5Mining@s
6ythical
5Properties
6urchased$sOnCsBy(b
FEpBy(b
=s
5Rare
6eleased
5SampleTypes
;s
5Team
6imesSteal
6okens
6ransferableCompanys$s
5UntransferableEc$s(b
5Winner
4perators
5~s
4rders
9Of(b
4verthrows
4wner!
3Parameters
6ticipants
5yTables
6ments
4endingRequests
5riods
4layers
5ots
4olls
5si~s
<Expired
4roducts
6posals
4urchasers
6se
3Ques~s
3Records
5f
6Credits(bf
5gistrants
:ies
5questers
:s
5sponseOp~s
;s
5wardedAxies(bf
9sAvailable(b
CSetForChild!(b
:Used(b
4olls
3Sales
4hareholders
4kinOfAccounts(b
4takers
4ubmissions
3TeamDeposits
4hings
4ickets
5ers
5lesClaimed
4okenPerEth
8s
9AbleToPurchase
:uc~ed
9ForContributor(a
9InCurrentCompactData
;Lottery
:ssued
9Left
:imit
9Sold
9Total
6sSwitchedOver
4urnsToRevolve
3Users
3VestingEntries(b
4ideos
4oters
9(a
7s
8(b
3Whitelisted
>Investors
4inners
3_claimed
4holders
6sts
9_revealed
4tickets_current_round
5okens_auc~ed
3ber
6Accounts
6BtcUpdates
6Claim$
6Decimal18
6EthUpdates
6For(a
6Immortals
7nRaffle
6Of(q
8AbilitiesSold(a
9ctiveProposals(d
9ddress
9lternatives
9pprovedSteaks
9uthorizedPayments
8Backers
:sesSold(a
9et
;s
<(a
9locksBetweenSupplies
9oardMeetings
9udgetPlan
8Campaigns
9ellsBought
9hoice(a
9laimants
=ed(b
:icksAtBlocksRemaining(e
:osedGames
9oinsAvailableInIcoTier(a
:mmittees
:ntractors
=ibutors
9rySolObjects
9yclePlayers
8DAppNodePackages
9ates
:ys
9eployed$s
8EarlyPurchases
8Farmers
9riends
8Games
9uesses
8Halvings
9ealthyGenera~s
:roClasses
9olders
:sting(b
8Index
:vestments
>ors
AToWithdraw
9temsForSale
8Kingdoms
8LeaderboardPlayers
;fs
8MajorEvents
9essages
9ilestones
9onarchs
:ods
8Names
:rcosByDistrict(e
8Orders
9utcomes
8Participants
DWaitingForPayout
=~s
<ners
9ingsAttempted
=Received
:xels
9layers
?InCurrentRound
:edgeAdmins
>s
9reviousEntries
:oposals
A(<ProposalLibrary.Entity storage>d
Bc
Bd
>ed
9unksReserved
=ToReserve
:rchasers
8RawEarlyPurchases
9ecentPlayers
;ordEntries
:ferralCodes(b
:solu~s
9ound
=s
8Sales
9pritesOwnedByUser(b
9tarsReserved
=ToReserve
9uccessfulPings
:pported$s
8$Holders
=Id
?s
=s
>Allocated
>Left
>PerUser
>ToAvail25percentDiscount
E50PercentDiscount
9ransac~s
:easuryOfficials
8ValidPartners(aa
9otes
8WagersToFinal@out
@Minimum@out
9hitelists
7wners
6Participants
6Range
6SyndicateMembers
6Whitelisted
7ikiPages
8nner
6_of_claims
:token
7to_hash(a
6ofGamePlay
3calls
8internal
4laimed
3erai
7;(ba
6tor
3fails
3players
3successes
3tickets
2tzAddr
1val(b
1xcPerBcy
3Sold
2tAddr
0o1!
12!
13!
1IDIndex_
3_Order_(a
1_algoritmo(a
3prendiz(a
3utomata(a
2desafiante(<bytes14>
4us(dd
2labirinto(a
2minerador(a
2novo_problema(a
2velho_problema(aa
1asisDirect
1bject
6(a
6Doublet
6Gloves
6Helmet
6Knife
6Pants
7roposal(d
6Sack
7hield
8oes
6Tome
6ive
2liga~s
2ol
2server
2tainBounty(ba
1ceanBonus
2g
1ddEven(ab
8e
9b
3s
4(a
2em
1em_share
1ferta
2f
3ChainAddreses(a
@ValidCount
8Manager
9int(ba
8Purchase(baa
8$s
3Freeze_Bounty(b
8ing
3Maintenance
3Period
3Threshold
3chainPayment(b
8Sale(ba
8Upload(gh
>er!
3er
5(aa
7bab
:a
;f
6ba
8a
6caab
5Ad(aa
5Bonus(a
7rrowingItem(laa
5CanvasForSale(ia
BTo!(iab
7tForSale(aa
?To!(aab
6ollectibleForSale(aaa
GTo!(aaab
5DiscipleVend(aa
5Eth(a
6xists(a
5Gan$ForSale(aa
DTo!(aba
6uardianVend(aa
5Help(bb
9Using=(bba
5IndexedPieceForSale(aa
HBy!(baa
7fos(a
5Op~sConversion(b
<ToEmployee(biiif
FOnlyExtra(biii
5PieceForSale(a
ABy!(ba
6osi~(aia
6riceCandy(a
:Eth(a
7oductOwnership(db
6unkForSale(aa
@To!(aab
5Signer
6ketchForSale(aa
BTo!(aab
6tarForSale(aa
@To!(aab
5Tkn(aa
6oChannel(ba
>s(a
7Lend(aaa
7Sell(aa
6rade(aa
5_energy(iill
6id
5changeprice(aa
5ing(bb
8Enabled
8Proposals(ba
8Type
5ors(a
5s
6(a
8aa
7b
8b
3icalHolding
5ial!
9pplica~SignUp(c
8GameUrl
8Limit
8Site
9old
8;(bucccc
8Url
9serSignUp(cb
8Website
7nt
3line
7Adjust(aa
7DiscipleSold(aba
8onate(aa
7Exchange(ba
7GuardianSold(aba
7RealmSold(aba
7Sales(aa
8ell(ba
7Transac~(ba
3set
6(bb
6FeeRate
6Index
1kamiCurrentPurchase_
5Funds_(b
5MaxPurchase_
6inPurchase_
5TotalPurchase_
1ldApprecia~RateWei
3=
:Of(b
:s(b
3CirculatingSupply
4ontroller
4ratesSold
3DB!
4ata
3E4
5RecycleBin
3Holders(b
3Owner
8Profit
3^
8ChangeBlock
3Seele$
3$
8!
8=(b
8Reward
8Sale
8TotalSupply
3Users(d
3XPAAssets
3_address
3est
6ExtraStealProbability(a
6Gen
1mairLatif
2ec(acc
3gaPerEther
5$
2g
2niTeam!
1nApprove(bba
=a
3ssetReceived(abbjbj
2=
3urn(a
7ba
4y(dabaabaabbaa
2Cancel(dab
3hain(b
7!es(d
7Identities(b
3ompensated(ba
4ntribu~(abaa
3rowdsaleEnd
2DecreaseApproval(bba
4livery
4posit(ba
;baa
2ERC721Received(abj
Abaj
Bbaj
5998Removed(bbaj
3mergencyChanged(f
3therandomExec(dda
<Seed(dd
3xchange$ToEther(baa
2Finalized
3reezing
4ozenAccount(bf
8$(baa
2HardCapReached(a
2ICO(ba
3ncome
5reaseApproval(bba
4itialized
4vest
2KSCReceived(bbae
2List(b
3otteryCompleted(i
9Finalized(i
9Insurance(b
2Maintenance
4rketFinalized
3int(ba
8ba
3oneySent
2OffCrowdSale(f
3wnership;(baj
2Payment(baj
5out(ba
8Failure(ba
2RefundPollFinish(f
4investment(baa
4move
4turned(baa
2Sale
6?
6$s
3ell(dabababbaaa
4tCredit(ba
3oftCapReached(a
4ld(baa
3ubCanceled(ab
5Executed(a
5New(aa
5UnHold(abf
2TapPollFinish(fa
4x;(ba
3hrone
3icketPurchase(ibN
3okenApproval(bba
7Purchase(baab
7Received(baj
7Sell(baa
7;(ba
Bj
Aba
3ransfer(bba
:From(bbba
:Stack(baaaaad
2UnVote(bm
2Vote(bm
2Withdraw(ba
<baa
2_block
2ceAdd@
4Outtime
4SetOwners
4out@Per
2e
3Billion
3CentOfWei
4oin
3EDG
4th
6erInKicks
9sHowMuchFST
3GetMoneyBack
3HourAfterStart@
4undred
:Thousand
3Million
4onth
3PotWei
3QuarterInSeconds
3Shot$Reparti~(a
4taIsStb
5epRate
3@Sold(b
7Tickets(b
4okenInCents
:Eur
=Wei
:FiatWei
A(a
:UsdWei
:Wei
8Wei
4ranche?
3Year
3_card
4ether_usd_price
4month
3avl
3day
3five
3hour
3month
3week
2g
2hold=
=s(b
2line@
3yAdminsFriends
5mbassadors
5pprovedOrOwnerOf$(abf
4Deves
7s
4Founders
4Harvest(a
4InEmergency
4OwnerGetAdv|
<Bounty|
<Company|
<Team|
9SetAdv|(b
<Bounty|(b
<Company|(b
<Team|(b
4Pay
7ForFuel
4Roles(bk
2off
2rs(a
2werName
5fee
1pAddr
2Minted
2VaultAddr
2en
4(aaac
6ia
5bdaa
5c
5dbi
5f
45Chest
4AirDrop
5ll
5ttacksCount(b
5uc~(a
4Books(a
6xPlayer(aa
7es(h
5uy
4Carousel
5hest
5losed$
5ompeti~
5rates
6owdFunding(faa
9Sale(a
9fund
9sale
4Date
5eposit
;(baaaaaaf
5ispute(c
7tribu~
@&
4ESOP(ij
5gg(aa
8lk
4ForPublic
=Trade
4Game
8(a
8Loop
8PlayNo(a
>s(h
8Range(aa
9esult(aaac
@c
>AndNewGame(aaacd
Jcd
8s(a
6te
8way
5iftFromSanta(b
5roupNumber
4ICO
5EOStart@
<ed
5co
4KYC
4LandEthSale
5eaderboard(ec
6dger!
5ootbox(b
6ttery
;(e
4Mail(a
6rket(b
5igra~Phase
6nting
4NetfRevenueRound(a
6xtSale(a<bytes24>a<bytes24>a
4OldCrates
5rCloseSale(f
4PendingPartCrates
5ool(e
6t
5reICOPrivate
;ublic
7Sale
4RaceCount
5efund
6sult(ap
5oom(aab
6und
9(aa
4Sale
8Completed
8End@
8Start@
9upply
5ession
5hop(a
5old$s
4@
8r
9Elapsed
5oThePublic
5rading
7nsfer
4WhitelistEnd@
5indow
5ormhole
4ZoneShop(I
8Teller(I
4_free
4ed
6CountryShop(I
=Teller(I
5gg(aa
4ingManualyMining
7@
;Array(a
;B
;PeriodOne
ATwo
4sourceFundManager
3rate(j
7d
7r
6ing!
9Costs(a
9Fund
=!
9Officer!
7on
9!
;ress
:mount
9$
>Created
9|
9_address(a
;mount(a
9al
;(b
;!
;Expenses|
;Reserve!
;SplitPercent
9s
:(a
:Account
:Eth|
:Fund!
:InQueue(a
:Percent
AOfTotal
:$s
:|
6or
8!
8Burn(bajj
8FeeAcct
8ProductCommissionInPerc
8Send(bbajj
8;(bajj
8s(a
:b
2inionIndexToApproved(a
>Owner(a
2m!
2ponent
8?
2s!
2tIn
5FcnMinGas
6romClassic
5Gas
5XferGas
3Out
3ion10name
8symbol
620name
8symbol
630name
8symbol
6!
6=(db
6Count
6Data(d
6ExcerciseUnwind(babaaaf
8ercise(a
>Of(b
>Span
6Hashes(a
6InitialSupply
6Of(b
7rderCancelled(d
6Pool
:=
:LockTotal
:Members?
ALockTotalOf(b
AUnlockPlans(aa
G@
:Total
?Max
7rogram
6Supply
6Taker(d
7otalSupply
;@s
7ransfer(baa
6s(a
7Calculator
8onversionDeadline
=ter
7Owner(b
7PerShare
7Registry!
7Set
1rThrow(fc
2acCost
4alizeReading(a
Bc
9_gaslimit
4le
6!
=es(a
@b
6CallbackGasLimit
A^
7onfig
8unt
6Deployed(bba
6Fee
6Indexes(bb
8terfaceCountdown
7sUpdating
6MasterCopy
6Name
6^
8oposed(bba
6QueryType
6Registry&
6Type
6URL
6_address
7call(a
7price_decimals_factor
7values(a
6s(a
8b
8sb
5ize
8=
8CallbackGas
CLimit
@s(d
9ontract
8Fee
8Gas
;ExtraArtwork
;Limit
;^
8Id2proposalId(d
:s(i
8MinCallbackGas
F^
8On
8^
8QueryCost
=Gas(a
=ID2BetID(d
>dsToBetIndices(d
8Requests(d
8SetWinner
A(a
Ca
9ource
8@Tolerance
8_cb!
B(<OraclizeLib.OraclizeData storage>
9gaslimit
:etNetworkName
<^(<OraclizeLib.OraclizeData storage>c
[ storage>ca
Bc
Ca
9newRandomDSQuery(aaa
9query(<OraclizeLib.OraclizeData storage>acc
[orage>acca
[orage>accc
[orage>accca
[orage>cc
[orage>cca
[orage>ccc
[orage>ccca
?ac<bytes[1]>
Ka
H2]>
Ka
H3]>
Ka
H4]>
Ka
H5]>
Ka
H]>
Ja
Bstring[1]>
La
I2]>
La
I3]>
La
I4]>
La
I5]>
La
I]>
Ka
Ac
Ba
Bc
Ca
?c<bytes[1]>
Ja
G2]>
Ja
G3]>
Ja
G4]>
Ja
G5]>
Ja
G]>
Ia
Astring[1]>
Ka
H2]>
Ka
H3]>
Ka
H4]>
Ka
H5]>
Ka
H]>
Ja
@c
Aa
Ac
Ba
9randomDS_getSessionPubKeyHash
BproofVerify__main(jdjc
OsessionKeyValidity(ja
BsetCommitment(dd
9setConfig(<OraclizeLib.OraclizeData storage>d
Cd
Cj
=ustomGas^(<OraclizeLib.OraclizeData storage>a
Ka
<Gas^(a
<Network
C(<OraclizeLib.OraclizeData storage>
De
CName(c
<Proof(<OraclizeLib.OraclizeData storage>A
BA
9useCoupon(c
2d(C
3er(<address[4]>2
6a
7a
8a
8b
6babaa
;a
<edd
6d
6neaa
6v2
5Books(bbab
5CalldataCanMatch(jjjj
7ncel(a
<babaa
;led?s(d
6ontractorProposal(a
7unt
5End
6thOf(b
6xpired(bb
5Filled(bd
;?s(d
9s
:(bd
;d
6or(b
8Days(G
5Id
5LastDate
6ender(d
6ist(a
:ba
5Match(aaamaabeddm
=maabeddm
:Test(aaamaabbm
Amaabbam
6odify(aaa
5NotAccepted
5OnFightAuc~(aaa
7SaleAuc~(a
Da
5Place(bfaa
5To&or(a
7;(bbbac
7ken?s(ab
:sOf(b
6rade(aaa
:rs(da
5UpdateHook(bdevJ
5_buy(ba
6counter
6number
6sell(aa
5books(b
5ed$s(b
5s
6(a
8b
7b
8d
7d
6Array(a
6=(db
6CanMatch_(<address[14]><uint256[14]><uint8[6]>jjjjjj
W8]><uint8[8]>jjjjjj
6For
9(aa
6_(d
7sell_amount(b
<list(a
<price(b
<total
2e^
3sLeft
2gName
3anisa~|
6za~
<sProposals(bd
7er
91
92
93
94
95
96
97
98
9s_percent
2ienta~
3gDev
4MktValue
4in
6Burn(a
6Coach(a
6;(ba
6al
8Artwork(db
9uc~
8ChecklistItems(a
9ontract
8Funds
8Owner_
8^
=sBySpinner(a
8Rate
8Supply
8$
=Holder
:talSupply
=Weight
8sCount
2yza
1scarGuindzberg!
2lik$
5iFounda~
1tc
2her!
5CoinsPurchase(da
6urrenciesChecker
5F3D_
5Managers(b
5PoolTotal
5Supply
5chainstotalset
Aupply
5s_prize
1urLastJackpotWinner
7Winner
3TEAM
2t
31Done
32Done
33Done
34Done
35Done
3OfCircula~(e
4verRoundId
3Rate
3SdcForUser(a
3$
3come
7State(baa
7$s(a
3ingreserve=
3put
6!
6Money(ba
6|!
6a(b
6b(d
6i(a
3sourceConfirmNode(a
4tanding=
;Ether
;Payouts
<ower
;Quarters
;$s(b
;Value
3terlockStart@
1vc
3PerEther
2er(d
4Limit
4RaisedUnsend
4allTakenEther
4draftAlloca~
9Cliff
9Period?
?Length
?sNumber
9Total
9Unvested
4flow
8?
8Owner
8ResistantFrac~(aaa
8_lower
9upper
4pays(b
4rideBlock
8Lock(f
4shoot
4throw(<bytes23>
:c
4write(cc
1wed(b
4At(a
4$s(b
2l$
3masterReq
2n
3(b
3=
3able
3balance
3ed
5(a
5Area(b
6ssets(a
5=(b
6onus
:(b
5&
5Houses(b
5Numbers(b
5Ownership;red
5Performance(b
5$(b
:Count(b
:s(ba
;Index(a
5func~
4r
5(a
6c
6d
51
6OK
7f(a
52
6OK
7f(a
53
5A
6ccessoryCollec~(ba
>;(bl
8ount
<sMap(b
7tivate$
6ddAsset(c
8Bankroll
8Ceo(b
8PercentToParent(b
8Role(bc
8SanSlot(ba
?Batch(gh
8ToWhitelist(ba
8WorkRecord(baq
8r
9ess
<(a
<InLUT(a
<LUT(a
<Map(b
<NumberMap(b
<Size
<ToName(b
>Url(b
<es(b
6lias
7locate(ba
=$s(baa
CForList(ghh
6ngelCollec~(ba
:;(bl
7imecardCount(b
6pprove(ba
6rmyCount(b
6ssCount(b
6tIndex(a
7omsCount(b
6uc~Count(b
5=
7nk
9(ba
6etsCount(b
6unnies(ba
7rn(aa
9Occurred
9$
>(a
9Unsold$s
7yCut
6y!(b
7Index(a
5CEO
6MIT
6anBurn(f
8Withdraw
8celArmyMarketplace(a
8didat
=e
6hange(ab
;Buyerfee(a
;Owner(b
;Running(f
;Sellerfee(a
<logan(c
;d(bbb
6laim
8wback
=Credits
6omission
8mission
7nfig(baa
8tract
7unt
:Int
:OfCard(bb
:er
7w(b
6redited
7ySolObjectsCount(b
6tu&
6ut
8Percentage
5DailyWithdrawal
6eactivate$
7clareFailure
<RefundFinish
BStart
7posit
<Interest
7stroy
6ied
7sablePayee(b
5Edge
6mit
6nablePayee(b
;Refunds
6th
5Fee
8(a
6inish&
6rac~
7eeze$s
5Grace
5HasCard(bb
9laimed$s
8hed
6istory(a
<Count
<Of(a
6overText(ba
5IndexToERC20=(b
AUsed(b
7foOf(a
7itial=
5Kill
9(b
9&
5Label
6ist(b
9Map(a
6ock
9ed
;=
5ManualMinter
7p(X
9b
7sterpieceCount(b
6igra~(b
7nt(a
9?
9Rate
6odAdmin(bf
8Operator(bfa
5Name
6eg$s
5Of(Qa
8a
9a
8c
8d
8i
8k
7Child(ba
8ountryCount(b
7ID(a
8tem(a
7Land(mm
;Many(BB
7Piranha(a
8lanet(aaa
:yer(a
7Robot(a
7SocialIdentity(aa
7$Map(a
8witterId(a
7UUID(c
7f(b
6n(b
7e
6verride(a
5Part
7use
:&
:Game(f
:Jackpot(f
:Payouts(f
:Recommend(f
7yout(b
6erThousandShareForBuying
HMating
8cent
<age
?s(b
7tCollec~(ba
8;(bl
6lanta~(ba
?Size(b
6ool
7werUp&
6rice
7ofit
;Percent
6utCapital
8Interest(a
5RandomHash
;Number
7te
6ecover$s(b
Da
7fundPlayer(dbaa
;User(dbaa
7gistry(b
7moveCeo(b
;Role(bc
7quired
7sume&
7trieve&Config2
=$Details
5SafeWithdrawal
6elfDestruct
8lArmy(aa
7nd$s(bea
7tAdmin(b
>g
9llowPublicWithdraw(f
9uditor(b
8Bankroll(b
8CallbackGas^(a
:sino(b
9rowdsaleClosed(f
8EdgeRangeAndPayout(aaa
9mergencyStatus(f
9therwow!(b
9xchangeRateInWei(a
8GasLimit(a
8HouseEdge(a
Bk
8JackpotOfHouseEdge(a
Kk
?$(baaa
9pMinBet(a
8Limits(aa
8MaxBet(a
;Profit(a
AAsPercentOfHouse(a
Re
9inBet(a
;JackpoBet(a
9od(f
8OraclizeGas(aa
@SafeGas(i
9verride(bf
9wner(b
8Priviledged!(b
8RandomApiKey(c
>GenerateMethod(a
:te(a
9ecommendPropor~(a
Lk
8StakeCommence(a
=Start@(a
;ndardFee(a
8Treasury(b
8Visible(cc
8|(b
8Zlots!(b
8diceRoll!(b
8jackpot&(b
6hareInPercent
:$s(b
7ip;(b
6tart&
:sCrowdsale(a
6upply
5Take(ab
9Profit
?(f
9sAllNotClaimedFunds
6emp
7stValue
6ime
9LastMinted
7ttiesCount(b
6oAgonIdArray(ba
8rmy(b
7=(b
8ooty(b
7EtherBoxes(ba
7Gravatar(b
7Name(b
8ickname(b
7$Count(b
<Ids(ba
7kenCount(b
:SharePct
:;(ba
:s
;(ba
;Allocated
;FreeDay
;Minted
7pUp
6ransfer(ba
?ba
=Ether(ba
=From(bba
=Jackpot$(ba
=Ownership(b
=PHX(ba
=Wei(ba
@First|(a
@Second|(a
@Third|(a
=ZTH(ba
7eesIds(ba
6wo
5Unlock(ba
;Fund
7pause
6pdate&=(a
La
=stToCallOraclize(a
;Others(afaaf
;$(bb
5Validate(b
<or
7ult
6ote(dab
5|
7ntMyEther
6ebsite(ba
6ithdraw
=(a
>ba
=Account(b
>ll
=ERC20$(ba
>TH
=Fees
=Parsecs(a
=To
?kens(bba
=UnclaimedCredits
?spentCredits
=al(a
Ab
?Date
=l
>(a
=n
5_
6MIN_LIMIT
6address
6bonusSend
6deposit
6endGetting
6fee
7reeze_start
=term
6reveal_and_commit(edd
6set_frac~(a
:time_limit(a
7hare
7upplied_eth
6testEnd
7ime_limit
7ransfer_ownership(b
6withdraw
>(a
>al(a
5ables(a
6ddress
5confirm
5force
5kill
5s
6(a
7b
7i
62tokens(ba
6Arr(a
6=
6ConfirmedTransac~s(b
8unt
7ut
6Eth
6LUT(a
7en
6Num
6OfArea(aaaa
8$(a
6ProductAdded(bab
=CommissionInPerc
6StakeAdded
6;(ba
6|
6hip
9(a
:b
9AssemblyCount(b
:uc~Count(b
9ChestCount(b
:ounts(b
9Deadline
:istribute(b
Cd
9Length
:ookup(ba
9ToCreator
;kenCount(b
:ransferAllowed
ACounter
6take
5transfer(ba
3s(b
6a
4All(bh
4Base(bd
4EthHandle(bd
4License(b
4Souls(b
1xen
4(b
1zr
0p
1(a
11
2Of(a
2_dura~
3start
3white_dura~
12
2Of(a
2_start
13
14
15
1E(aaaa
1Fees(a
1ID2Order_(aaa
4Player_(a
4Round_(aa
3Index_
3_
4Player_(a
3xAddr_(b
4Name_(d
1MinInFp
1StartBlock
4te(b
3opBlock
1Valida~State
1_wallet
1acifistmasterReq
3kLimit
4^
4Sale!
5ize
4ageCount
4edBytes(a
4s(a
5Bought(b
5PerClaim
2dlocks(a
2ges(udd
2id
4(b
4!
;(a
5mount
4CreateWikiPage(ccca
4Dividends(ba
?i
4ETH(b
5ther(b
4In(b
6stallments
4Out
7(b
4$s(b
:Of(b
4version
3ntGraffiti(acc
5ingIdToIndex(a
:s(a
9ndexToApproved(a
?Owner(a
8s(a
9Count
3r
4wiseOr(l
2ladin!
7Equity
2ndaIndexToApproved(a
<Owner(a
3icButton(f
5ked
3try
6T
2oContact!
2r
3achute
4meterizer
=Factory
9s(a
;d
:AreSet
5s
6(a
7d
6Valid
3cipateCrowdsaleAll
BInvestor(b
3ent
6Addr
:ess
=(b
6Change(ba
7ontract
6Fees(b
6Of(a
9b
6SnapShotBlock
:shotId
6$
6s(a
8b
3ityOwner
3king
7Off(b
8n(ba
7Switches(b
3nter
3se(d
5Addr(c
5BlockHeader
5Int(c
:a
8128(c
5OutputScript(jaa
5Ticket(a
7mestamp(a
>Parts(a
5VarInt(ja
5cCredit&
6sOf(b
3t(b
420;
4Alloca~Length
>s(a
4Fees
4IndexToApproved(a
;Owner(a
4Pos
4ialClaim(ba
7Flip(d
8orwardFunds(a
7Redeem(ad
?g
9fund(a
7UnlockAngelsAccounts(g
7Withdrawal(a
7_refund
>_my_ether
5cipant
;(a
<b
;?
;=(b
<onus(b
;CapTier1
B2
<laimCredits
@s(b
>wbackEther(a
<ontribu~(b
GInEth(b
=unt
;Details(a
;ExternalPaymentChecksums(ba
;Index
@(a
@es(b
;List(b
;Map(a
;Refunds(b
<ound?(ba
@Calced(ba
Ahange(ba
@Rewarded(ba
@Value(ba
;Signs(bb
<tatus(b
<uspendedExternalPaymentChecksums(ba
;ToBRAbought(b
=EtherSpent(b
=UBObought(b
=kens(b
;Values(b
;Whitelist(b
<ithdrawIfMinimumFundingNotReached(a
;s
<(a
>a
=b
=ma
<Count
A(e
<For1stSale(b
?3rdSale(b
?CustomSale(ab
?PreSale(b
<Length
<Map(b
<Of(i
9te
;(aaaaaa
<b
=a
<c
<d
<e
;Game(iiii
;ICO(ba
;Presale
;d
<(b
<Counter(ba
<InAirdrop(b
<Wei(a
:ingCompanies(a
=Mines(a
;on(b
=?(a
=Caps(b
=End@stamp
=Fee
=History(b
=PresaleHistory(b
5~
4ner
71
8_address
9name
9signed
9voted_update_marriage_status
Fprenup
;ws
9will
72
8_address
9name
9signed
9voted_update_marriage_status
Fprenup
;ws
9will
7!
8llocateRestricted$To(dda
>ions(b
7Bonus(e
<Percent
7&s(b
9unt
7ETHRewardsPercent
7Fixed?(a
7ID
9(b
8nfo(b
;_for_Owner(b
Gdedd
@Partner(dedd
7Map(ab
8essagesCount(bb
7PreICOBonus(b
7ReservedSum
7Sale$^
@Value
@sAvailable
APurchased
;|s(a
<ei(b
8upply
7;(adba
7|
8ithdraw
7_1_name
82_name
7names
7s
8(<int16>
9a
8!
9lloca~
8Bought(b
8Fund
<!
8Key
8Limit(b
9ockEnd
8MintLockEnd
8Percent
8Release
:ward
8|
8hips$!
4owners(b
4sMinted
4y
5Count(b
5To(b
2ss
4Dao
4Founda~
4HotPotato(b
4Message(bc
4Off
4Period
4$(b
5urn(a
4UndistributedEther
4edKYC(b
4overEnd@
8Start@
4wordMint(bad
3tAgreement(a
4FiveMinutes
4OneDay
7Hour
4TenMinutes
4Values(a
4_present_future
2tentSale@Delay
6Valid@
6s(k
3formWithdraw(a
3h(a
4AdvisorVault
3ronRewardMultiplier
2use
5(a
6c
6d
6f
7f
5Activity(k
6uc~
5Bet(a
6lockNumber
6uy
8back
5CWC
6losing@
6ollect$
7ntract
=(f
:ibu~
A(f
6rowdSale
>(f
:sale
>(b
6utoff@
5DET
5Emergence
6nd
5ForDividend
5Game
9(f
5ICO
8s
6TO
6co
5LastStart
6ottery(e
5Master
6igra~
7nting
<(f
6ode
5Notice
5Offset
6perator
5PVP
6hase
6layer&s(aa
6reIco
8Sale
<Round
8sale
<(f
7iceRaise
7oposer
5Reason
7demp~
7fund
7sume&(fd
6oundA
:B
:C
:D
5SALE
6ale
9(f
6ell
6tateSwithcer
9us
6wap
5$
:(a
:Sale
:s
7urnament
6rading
8nsfer
=s
5UET
6npauseICO
5Whitelist
6ithdrawal(b
5able
5contract
5d
6B
6OwnerAdmin
6Public
6@
:stamp
7oPublic
6Until
5r
5status
4ingMechanismLocked
2y
3(<DRCTLibrary.$Storage storage>bb
4a
5ab
7j
5b
5d
4b
5a
6b
5b
6a
6baaa
5c
5nci
4dbbaaj
4nb
6A
3055(b
6loyal(b
31(b
32(bab
3Affiliate
<1!(b
<To!(b
4llOut
6Rewards
5tCoin(dbbaaj
4mount
9ForLoanAtIndex(aa
3Back(b
5lanceToReturn|
5nkroll
4eneficiaries
5ts(d
4onus
8(g
81!(b
8Affiliate(ba
8To!(b
3Carnita(aa
4eo
4harity
4ommission(baa
5ntract
8ibutorByAdress(b
@Number(a
6versionFromTransac~(aba
4reator
4ustom(ba
3DAPP(bab
4ate
4evelopersFund(b
4iff(ba
5vidend
;s
<(a
<Manually
4uel(bcbc
3ETH(b
4ntryFee
4th(baa
6er(a
8ToWinner(ab
4xcess
5tra$s(a
3Fee
6(dab
6s
7Toggle
4iat(baa
4orDemocracy(d
6Myself(n
<WithChecksum(nA
6Order(aba
6Task(a
<a
6Upgrade(ba
6Vote(bda
6YourGladiator(a
6tune(a
3House
3ImporterBankForGoodsBought
4n
5terest(ba
;s
3Jackpot
:(a
4osh
3LastSixteenWinner(a
4eaderAndDev
4oan
3ManagementBody?(a
APercent(a
5sters
4e
5For(k
4ultiple(a
3Nihilum
3Off
6ClientDebt(aa
4raclize(a
5der(aa
;a
4ut
6(<pool>a
7aa
8ea
7b
8a
7ea
6Bounty(bb
6Dividend
6Jackpot
6Percentage
6Winner(b
6s(b
4wnerOnly
3Partners
4egDistribu~(ba
4layers(aa
5edge(a
3QuarterFinalWinner(a
3Rake(a
5te
4eceiver(b
6ords(ba
5demp~(a
5nt(dc
5qustedSum(aa
5ward
3Seller
9(a
9ForBuyer(ab
5miFinalWinner(a
5rvice(aiclll
Alll
;baiclll
Blll
;dbba
4ize
4omeRewards(ii
4tyle
4ubscrip~(b
3Team
4heMan(a
6Winner
4o
5(ba
5Manager(a
5Presale(b
5ken(bb
;aa
8HolderBasedOn$Count(ba
5urnamentWinner(a
3Underwriter
4p
3|
4innerManually
9s
:(<address[20]><uint256[20]>
5thDailyFreePoint
7Eth(ab
7Gold(a
7Merculet(a
8ileagePoint(a
7outChecksum(nb
3_Bounty(ba
4claimed
;(b
4day
4winner(a
3aFinished
4bleEnabled
8therReceived
7FinneyReceived
7InFiatEth(ba
7Reward(b
7WeiReceived
3back(a
7All
7Contribu~(a
7Last
7ToOwner(b
3dCouponsETH(b
4ay
6(a
6FrequencyInDays
3ed
5!(b
5DividendsUSD
4e
5Array
:(a
5WithdrawCapital
=Interest(a
5s
6(a
7b
6Payment!(da
4r
5(b
5&
5Refund!(d
Da
5String
5s(b
3fee
4orRefund
3incount
3ment
7(abaf
8ba
9bab
7Ac~(aba
>dhh
8ddress
>es(a
Aba
As
8ffiliate(b
8mount
7ChannelsCount
8ontract
?!
?s(e
9unter(b
7Destina~
9tail(ba
8igest(da
7Enabled
8scrow
7FallBack(ba
8rom(ajbb
7Gateways
7History(ba
7Id
8nfo(bc
9terval
7Max
8in
9xed(aaa
7Of(b
7Periods
7Received(ba
9gular$s(aa
DPriority(aa
9ward$s(a
CPriority(aa
7Settings(c
8izeB
;C
;E
8uccessful(d
9pply
7To(ajb
9ken
<!
7|!
8ithCurrency(bclc
7_amount
8time
7s
8(a
:a
9b
:a
9d
8By!(b
:Benefactor
D(b
:Customer
B(n
:Purchaser(n
:UserId(a
8Count
8Finished(a
9rom!(b
8InOtherCurrency(aa
8Of
8@stamps(b
3off(<Referral.Tree storage>b
7aa
6?
4ut
6(a
8a
8b
7b
8a
7c
7d
7g
8ab
8h
7hgh
6Addr
:ess
7ll
6=
6Completed
8unt
7ursor_Id
?_
7ycleInDays
6Dividends(ba
7ona~s
6ETH
6ForMining(ba
9Result(<GameResult>a
9WagerAndOutcome(ae
7rom&
6Idx
7ndex
8terval
6List(a
6Match(aef
7ethodABI
7ining(a
>bb
<All(bh
7ultiplier
6Now
6OCDividend(b
7dds
7rder
6Partial(a
7eriodEnd
<Start
7ool
7reviousRoll
8izes(g
6Range
8te
7eady
6Threshold
7o!(g
8Beneficiary
8OwnerIsLimited
8Referrer
8tal
6|
7inners
7orth(b
6X(ba
6_multiples(k
7normalizer
6count
6fordividend(ba
6s
7(a
8b
9a
7ETH(b
7Paused
7To_(b
7|
3product(a
3rollCount
7s
8(a
3shop(baa
7withfees(baa
3to1
52
53
1bWinner
1ctOfPool(a
1e=
2Cap
2MaxPerPerson
3inPerPerson
2^
2arl&
5Send(b
2cul
5Adress
5Old
8Adress
2ek
3p
3r
2g
3ETHUSD(a
4therValues(aaaaaa
3Handler(ba
3IsSetup
3address
3caddress
3gedETHUSD
6Symbol
4lebot
2loExtens~
2nalizeInactiveJuror(bah
5ty
7Disbursal!
7Frac~
3ding
7(aa
8b
7!
9min
8mount
=UFT(b
=s(b
8pproval?(bb
7=Map(b
7&Owner
<ibu~Of(b
9unt
7Edi~sOf(b
8thWithdrawal
:erForCroupier
7Feedings(b
:s(ba
;Withdrawals
F(b
8ishing(d
8unding
7GDPOracle
7Installments
9vest&s(a
FIndices(b
=ments(b
:ites(b
7JackpotForHouse
AWinner
7List(a
<b
7Manager
8ints(a
7NewRound
8umbers(b
7Opera~(a
8raclize
8wnedOwner
;r
<1
<2
7Parsecs
>Of(b
:ticipants
C(a
9yments(b
:outs(b
7Referals(b
9questIds(a
9turns(b
9wards(ba
>Of(b
>ToMint
7Stake(ba
7$=
<User(b
8ransac~(b
Cd
Bs(a
Dd
8xs
:(a
7UFT
7VestingPool
7Wei?
8inners(a
9thdrawal
As
B(b
7_pay(b
3ultimateAverage=(b
;FeePeriodStart@
2ony
3ple(a
7b
2p
3Farm
7(bba
2r
3!Cap
3Claim
3ReserveListedPairs(bd
3StageNxc
4upplierListedPairs(bd
3$^
4ransac~Rate
3Value
3cent
7(a
9a
:a
9e
7Divider
7Fee@s100
?5
8orBounty
:Community
:HelpCoin
:Sale
:Team
7Left
;FromTotalRaised
7Of(b
9Goal
9PresaleSold
7Rake
9te
7ToFoundersAfterICO
9PresalersFromICO
9TakeAsRake
?Seed
9kensToSale
7WeiDividend
:Jackpot
:MC
7_reduc~
7age
:BuyBackFund
:Cut
:ETHReserve
:HumanityFund
:OfRaised?ThatRemainsIn&
:PerMonth
:Quarter1
A2
A3
:Recipient1
C2
C3
:ToEthertoteDevelopment|
<Kill
<TeamEth&
=oteLiquidator|
:_of_three
:s(b
7s(a
9b
8OfProjectComplete
3formBuy(<address[21]>Raaedd
D8]>Raaedd
7Calcula~s
7Different(bgh
7Equal(bga
7FeelessTransac~(bbjaj
7HealthCheck(e
7InitialAlloca~s
7Payout
=s
7ReentrancyAttack
7Sell(<address[21]>Raaedd
E8]>Raaedd
7Transac~(a
7UserWithdraw(<Smart|Lib.| storage><IERC20$>
Db
7_selfdestruct(a
8withdraw
@(b
@al(b
7erList(a
3iod
60End
61End
62Denominator
7End
7Numerator
63Denominator
7End
7Numerator
64End
6?
7t(a
6Bonuses(a
7yDate
6Crowdsale
6Dura~
>(a
6End
6ICO
7TO_end@
:hardCapInUSD
CWei
:mainCapInUSD
CWei
:period
:softCapInUSD
CWei
;tart@
:token^USD
:wei
=Per$
6Length
7imit
6Now
6One
6PREICO
7ercent
=s(a
7reICO
:TO_end@
=hardCapInUSD
FWei
=mainCapInUSD
FWei
=period
=start@
=token^USD
=wei
@Per$
9sale
6Round
6Sales
;Limit
7tage
9rt
6Table(a
7hree
7imeFrame(a
7wo
6Week
6_count
6icity
6s
7(a
7Passed
3manentlyOwnMyCompany(d
4issible$Withdrawal(a
;Withdrawal(a
8onManager
<rker(bf
:s(a
<b
=d
7onedAccounts(b
5t(bbd
8f
7ddd
6Burning(f
6Child&(g
6ted!es(b
9Investors(b
9Rolls(a
4s(bbd
3sians
5stLimit
4onAdd(cmmc
6IndexToApproved(a
EGen1(a
=Owner(a
BGen1(a
=Siring^0(a
H1(a
6OwnerHistory(aa
6ToOld^(i
8^(i
6UpdateActivity(af
<DOB(am
>D(am
<Name(ac
<Rela~(ac
6alBonuses(b
8Cap
;Active
;EndAt
9ontract
8Max
;cap
9incap
8SegmentHash(cad
8_withdraw
A(a
Bca
8isa~Cost
9tyTypes
9zeSquare(ajcc
6s(a
2tCardData&
7SeriesCollec~(e
4ollec~(a
3HpThreshold
3IndexToApproved(a
:Owner(a
3OnLeaderboard(l
@s(l
3Presell(k
3h
3i~s(a
9igners(a
3s(a
4ClaimedDiamond(l
;Gold(l
;Zeronium(l
2wdiepie
1f(b
2cController
1goInternalReserve|
3MonthlyInternalVault
:PresaleVault
3UnlockedLiquidity|
3Vault
3|
1hID_
2ase
51Account$sMax
6Cap
6Dura~
>InHours
6EndBlock
9ingAt
6MaxEtherCap
9$ForSale
6^
6Rate
6StartBlock
;ingAt
6$^InEth
;Sold
6WeiRaised
52Cap
6Dura~
6EndBlock
9ingAt
6MaxEtherCap
9$ForSale
6^
6RateOffsets(a
:s(a
6Start@
;ingAt
6$^InEth
;Sold
6WeiRaised
53Cap
6Dura~
6EndBlock
9ingAt
6Max$ForSale
6^
6StartingAt
6$^InEth
;Sold
54Cap
6Dura~
6EndBlock
6^
55EndBlock
6^
56^
57^
58^
59^
5Dura~
5End@
<(a
5Length
5OneBonusPercent
8Cap
8Rate
5Presale_From
=To
6ublicSale1_From
ATo
?2_From
ATo
?3_From
ATo
5Release?
5Start
5ThreeBonusPercent
:Rate
6woBonusPercent
8Rate
5_1_@
8bonus
8rate
9emaining_tokens
8token_price
62_@
8bonus
8rate
9emaining_tokens
8token_price
63_@
8bonus
8rate
9emaining_tokens
8token_price
64_@
8bonus
8rate
9emaining_tokens
8token_price
65_@
8bonus
8rate
9emaining_tokens
66_rate
5s(a
2iRate
3Won
3ladelphiaBets
5nthropise(c
2otoData
5Text
2rase
6_(a
2xCoin
2ysicalString
1iEnd@
2Start@
2$sForSale
2ckConsola~Prize(h
4Exchange(baaf
4Reward(a
4Ticket(s
4Values(d
4Winner
:(da
:s(ebbbeee
4axe
4sForUser(ba
3opsCertifier
6_balances(b
8lock
7enabled
7identity(ba
8s_enabled
:verified(f
7user
7withdraw_excess
4sCap
5PerEther
5Sold
3tures(d
2d
2e
3Accounts(a
3=Of(b
:s(b
3ceForSale
5Sold(bba
5;ed(abb
5Wanted
5price
5sOwned
;(b
2ggyBank
2lfer(a
3lar$Factory
2nakion
3chVillain(aa
3g
4(a
5baa
8a
5c
4Block
4Delta(a
4Reading(a
4@stamp
4ed(baaa
4s
2p
3eIndex
4ToIndex(b
2ranhas(a
8TotalSupply
2t
3Fee
3boss
2vx
2xelIndexToApproved(a
<Owner(a
5^
:(aa
5ToApproved(a
5block^(KKKK
5s
6(a
7i
6OnSale(d
7wned(d
6PerCell
2zzaHolder
5IdToApproved(a
9Divs(a
9Owner(a
6ndexToApproved(a
<Owner(a
5^
1ks
3(a
2t
1lace
5(0
6e
5Answer(ac
5Bet
8(<BetTypes>a
Ce
9a
:aaa
=dd
:c
:dd
:e
9b
:ac
9cc
9d
:b
:dd
9ea
:e
6id
8(a
:aaad
9c
9l
8FromEtherScrolls(a
6lock(kk
6uy(baa
8NowOffer(aa
8Order(a
8Request(aaa
8$Order(i
5Coin(kk
5Deposit(aa
5EMONTBid(bea
6THBid(e
5Game(Kaaaaaaadd
5Image(eeeeccc
6ndexToApproved(a
<Owner(a
5Long(vLex
;zex
5Message(cf
5NewBet(ae
9id(a
8Survey(daia
6otes(hha
5OpenPurchaseOrder(b
5PurchaseOrder(d
5Ques~(aeac
5Sell(baa
9FciOrder(a
9Order(aa
?la
9Request(aaa
9$Order(ia
5$s(ba
5Value(b
6oxel(eeee
5Wager
5_bet(e
6holder
5offer(aa
6rder(aa
5s(a
6Sold
3in
5Pay
3netCordinates(a
6Life(aaa
6Name(aaa
4ta~(a
:Size
5edOf(b
7Rate
7@
3tAuc~
4&
4^Oracle&
4form
8!
8Fee
9undingPerEpoch
?Supply
8Login
;out(ba
8OperatorNeumarkRewardShare
8Referral
@=(gh
8Supply
>Remaining
8$Supply
=s
>!
8Unfreeze
8|
>!
9ithdrawAccount
@alProposed
BRecipient
4inum
3y
4(A
5a
6a
7a
6f
6ke
5ba
5c
6a
5d
5e
5f
41(ba
42(ba
44(ba
4AnyTriples(a
5way
4Batch(hh
5igOrSmall(aa
4Count
91
4DiceCombina~s(aaa
4EtherOf
4Fast
5rom=
4Game
8(aa
;a
:ccc
8CheckBid(a
4Home
4Jackpot
4No
4Orders_(a
4Random(b
4SingleDiceBet(aa
5lot
5pecificDoubles(aa
<Triples(aa
5ystem(ab
4ThreeDiceTotal(aa
5oken
4Value
4_paper
5scissors
6tone
4ed|s(a
5r(a
7b
61
62
7@stamp
63
7@stamp
64
7@stamp
65
7@stamp
6AcceptOrders_(ba
8orns(b
8tiveGames(ba
7ddress(d
7mountOfBets(b
7pproved(a
7ttack(aa
6=
7etInfoOf(a
9s(b
7udget
7y!(b
6CancelActiveGame(a
8rds(a
7heckProvablyFair(aj
7ompleteGames(ba
8st
8unt
;(a
<b
6DayEthInLimit_
7ecision(<Game><GameState>
DLib.Game storage><GameLib.GameState>
8layOnExit(b
6Earnings(b
7ndGame(iekamddabj
=Conflict(iekamddabjd
7ther
7xist(b
6ForceGameEnd(a
Ceaamaa
6GameId(b
:sCompleted(ba
7etPendingTxBy!(b
7uess(0
6Id(a
9b
8Of(a
8ToExtendedAttributes(aa
8_
8s(b
7nDraw
8dexToApproved(a
=Owner(a
8fo(b
8put(b
7sRegistered(b
6LastScoredGame(b
7ist(a
6MakeBet(aadedd
7sgs(a
6Names(b
7um
6Of(b
8ferOrders_(ba
7utputAtNow(b
6PlayCount(b
7opMining(af
7rizeClaim
;s
<(ba
8odBoost(b
9fit
6Roll(aab
;ee
=b
:Dice
>(a
@b
>Single(a
:s(b
<d
8und?(ab
;Data(aa
@ba
;Sid(ab
;_m(ab
;withdraw?Flag(ab
6SetInput(ba
7pins(b
7tageAcc?(aab
<mount(aab
9tus(b
6TakeOff(a
7empReward
7imestamp(b
7oDungeonID(b
8Owner(a
8^(a
8WinCounts(b
8ken!
;&s_(a
7ransac~List(b
6WinHeroes(b
9Items(b
8thdrawPendingTransac~s
6_1(a
72(a
7cancelGame(a
8ollect_winnings(a
9unt
7declare_taking_too_long
7getPendingTxBy!(b
7make_bet(e
7withdrawPendingTransac~s
6info(b
6name(b
6referees(b
6s
7(a
9a
8b
7!es(a
8mounts
>(a
?b
7Count
7List
;(a
7Map(b
7PerRound
8oints(b
7Required
7ShareAlloca~
8ignedUp
8torage(b
7ToBetIndices(ba
9Id(b
9TotalBets(b
7_(b
4ingNTVU
2crFactory
2edge(a
6Eth(a
6Fees(a
6$s(aa
6s(ba
2ockFlag
3ts(a
5Owned(ba
2s
2ugins(b
7Array(a
3s
4(aa
4Freezing@(a
4OnePonzi
4TourFreezing@(a
3tocracylvlAchieved(cc
8t
2yrNameList_(aa
8s_(ad
4Phas_(aa
4Rnds(aa
8_(a
;a
4_(a
2z(b
1mtAccount
1oWtf&
2cket(b
2i
3Lockup
3_token
3ntArrayOf(a
5Multiplier
5Of(a
5er
5s
6Limit
3ssonData
2ke
4(b
6d
5d
5ni
2licies(a
8Count
5yActiveNum
6Candy=
6FeeCollector
6ID(a
7d2Index(d
7nfo
6$=
BFromEther
4shRoughStone(a
4ticianIndexToApproved(a
AOwner(a
3lAdmin
4BurnCompleted
8Inc
8Qty
;Max
4Completed
4DataMultihash
4Ended(a
5xists(a
4Map(a
4Nonce
4s
5(a
3yCompliance!
5ustomers!
4$
9!
4mathRegistry
2mda
2ng
3zi!
5FriendToLevel1Ref(a
B2Ref(a
B3Ref(a
;sToId(b
5^InWei
2oIndexToApproved(a
:Owner(a
3l
4(ba
6e
4!
;CapTier1
B2
5mount
4BLock
5alance
5ounty
4CLock
5apUSD
5ontract
6unt
5ut
4DLock
4EthCap
7Sold
4FeeIncurred(a
7Rate
7s
4Investors
5ssue
4Mint?
8Rate
4Percentage
5resale
6ice
4Reward
4Sale
5ize
4@LastMinted
5oken?
6tal
4|
5eight
5ithdraw
4_drain(b
5name
5percentage
4s(a
6b
5ToCreate
2p(<!SetLib.!Set storage>a
5CLL>f
3FirstFromArray(g
3IndexToApproved(a
:Owner(a
3Record(b
3count(l
3s(a
3ulateAllowedFreeExchanges
8FromItemRegistry(h
<Old&(h
8TierRates
<$s
8Whitelisted(gh
7ion
2rtal!
4folio
9Manager
9Summary(b
2s
3(ga
3Coeff
3Interval
3Mint
3Rate
3Share
3ibleDividendsOf(b
7Redemp~Of(b
4~OfJingle(a
8^
8s(b
6veVotes
8_terms_of_Service
3sibleMobClasses(a
3t
4(ba
6bac
6c
6dd
5c
6<bytes20[]>
6bc
6c
6g
7bh
7h
5d
5nib
4AllocateAuc~@Mints(baa
4BuyOrder(bbaa
4CrowdsaleWithdraw(a
4Data(bcd
5eadline
4ExternalPayment(baaea
4FreezeDestina~
<vCATDestina~
4GoldPeriod
6od(da
4HardRate
4ICO
7Sale
5coPhaseCountdown
4Message(bac
5onForClass(li
:Mon(ll
4Proof(c
4SellOrder(bbaa
5oftRate
4Task(ccaa
5rade(da
<b
4|Payment(a
5ish(jj
4er
4ico_startdate
4poneDueDate(aa
4s
5(a
2t
3Members
:(a
3Reserve
3Size
7Changed(a
4plit_
9(a
4wap
3Target
4ime
3_total
3ato
6Owner
6es(a
3entialOwner
9lyCirculatingPop
2w(aa
310(ae
32(m<Math.Estima~Mode>
4Bounds(m
3IndexToApproved(a
:Owner(a
3Limit
3er(aa
8aae
8ii
6mm
5Addr
5=Of(b
5DayEnd@
9thPerPerson
8PerPersonCapInWei
8Rate
9emainingLimitOf(b
6own(bba
5Pool
5Status
6witch(f
5TotalSupply
5Up(a
8ba
9ba
7&
5WithModulus(aaa
5ed_up
5mayorCutPercentage
5s
1pFinish@
2b(aa
2ls(i
2s
3Base
1r
20coin!
2Pool
2c(a
3Sum
3ntRate
2e
3(bdd
3Allocate(baa
;d$sVesting@
:ion
=sPending
5pha^
4ssign(b
3Backers(b
5lanceOf(b
:s(b
4onus
5untyAdded
4uy
61
62
63
6^1
;2
;3
6ersDispensedTo
3Cap
4oinSentToEther
4rowdMinContribu~
8_tokens_scaled
8sale&!
<End@
<On
=wner
<Start@
<$s
B|
3DGZ$sSold
6toDGZExchangeRate
4iscountPercentage
6triToAcquiantancesEnd@
HStart@
4ura~
3EndBlock
6@
4therCap
8Received
3FundingStart
:tokens
3Grant(ba
3ICO
6(ba
6Active
7ddress
6=s(b
7eneficiary!
7onus
;Percent
6&
6DataInitialized
7eadline
6EndDate
9@
9s
6FreeBonusPercent
7unders(a
6Holders(b
6Ledger
7imit
6Many(gh
6^
7ush(ba
6Raised
6SaleStart
7tage
9rtDate
;@
9ts
7upply
7wapRate
6$?
;Delivery(ba
;HardCap
;IssuedTotal
;Remaining
=ward
ARemaining
;sAllocated
6WeiRaised
6_tokens
6amountBonusLimits(a
AMultipierInPercent(a
6bonusMultipiersInPercent(a
6cap
7oinsLeft(a
8llected
8ntributors
6depositors(b
7ura~
6end
9@
6goal
6mint(n
6participated(b
7rice
6rates(a
7egula~s
6special
7tart
;@
9te
6tokensSold
6wei
4TO
4co
6(aaahh
6Active
7ddr
7lloca~
@(a
6Bonus
;(aa
;es(a
7uy^
6Cap
8shedOut
6Distribu~(baa
6End
9At
9Date
9@
9ed
;(ac
9s
:At
<Changed(a
7thers
<(b
6Finish
<@
@stamp
<ed
6Hardcap
8sEnded
6Investment(baa
<ors(b
?!es(a
7sRunning
6Limit
6MaxCap
9Lasts
7embers(b
7inInvest
9imumWei
6Open
:ing@
6Period
7haseCountdown
7rice
6Rate
6SoftCap
8ld
:$s
7tagePeriod(a
9rt
;At
;Block
;Date
;@
9te
7upply
6Target
7oken
;Holders(b
B!es(a
;^(a
;Sales
<upply
;s
<Count
<Distributed
<Sold
8talCollected
;Supply
6|
8sSuccessful
4nvestStart
9ments(b
3MarketingSharesDistributed
4cFly|
4ine
7dFund
8Supply
6ing
4ultisigEther
3Order(bbdaaa
8addressfortest
3PaidFee
5yment
4reIcoEndAt
9StartAt
6SalePeriod
3Rate
4egister(b
3Sale
71
72
8Finished
73
8Finished
74
8Finished
75
8Finished
7!
8llotment
;wed(b
8mount
7=sOf(b
8fPlatform
8lockNumber
8onus
<1?
=Percent
=@
<2?
=Percent
=@
<3?
=Percent
=@
<4?
<es(a
9tReserve
7CSSC
8ap
8lose@
8oinCap
9mplete
9ntract
<ibu~s
:versionRate
8reated(aaa
7Deadline
9livery(ba
9posit
8iscount^
:tribu~&
8urance
;~
7End
:Block
:Date
:@
:ed
<At
8therPaid
<Raised
7Finished
9rstBonus
<Cap
<Day
<EndDate
=therCap
<^
<StartDate
8ourthCap
=^
7GoalReached
7Halted
9rdCap
9sEnded
7Init
8temIndexToApproved(a
BOwner(a
;TypeToClassToCanBeVendingMachine(aa
HMaxLimit(aa
PSet(aa
HName(aa
HVendingFee(aa
BollectibleCount(aa
ASequenceIdToCollectible(aaa
7Limit
9st@
8ockEnd@
7MaxCapInWei
:$s
8in?
:Eth
:PaymentWei
:imumWei
7Open
;ed
7Participant$s(b
8eriod
8rice
7Raised
9te
8ound
7SecondBonus
=Cap
=EndDate
>therCap
=^
=StartDate
8old$s
8penderTxDetails(a
8tart
<Block
<Date
<@
<date
<ed
:te
8uccess(baaa
9pply
7TLYperETH
8hirdCap
<^
8oken
<=s
<Cap
<ExchangeRate
<Left
<^
<Raised
<Sold
<s
=(b
=Available
=Disbursed
=LeftForSale
>imit
=Purchased
9talSupply
7Vault
7|
=s(a
8eiCap
:Raised
8hitelist(a
7ZxcCap
7deadline
7price
7sEndDate
8SpecialUsers(b
4easonGame
5edAlloca~
5ndTTC
4ignedCheck(ubbaaaej
9Hashing(ubbaaae
4oldSharesDistributed
7$s
4tartBlock
8@
3TGE
4ge
6Bonus
6Cap
6Manager
6$Supply
4oken
5tal$s(b
3_PRICE
4active_time
5mount_stages(a
4end
7@
7date
4ico
7(ba
7_alloca~
8start
4maxGoal
5inContribu~
7ed_supply
4prices(a
4sale_end
5tart
9date
4tokensSold
3allocCoins
8ate
;(ba
>a
?aaaa
=bbb
;FirstStage(baa
;SecondStage(baa
;d
<$?
:ionsWhitelist
5ocateCoins
4uthorize(b
3bridge
4uyPor~Total
3calculate
4entDecimal
4ioether
6usIndexToApproved(a
?Owner(a
6wea
5sion
9Factor
9Minimum
4ommitmentAdjusted
5ndi~s(a
4rowdsale(b
<pricing(ba
3decessor
;!
4ict(ke
7Market
7Packs(a
7Winner(aaa
7ions(Kb
<ab
3emp~
3ferentialRate
6redSaleEnd@
=Start@
=TLYperETH
>okensLeftForSale
4ill(gh
7ed
5xedHash(d
3gen$s(baa
4nantBots
8Dogs
8EtherDogs
8Horses
8Kitties
8LinglongCats
8Monsters
8Ninjas
8Pandas
9oniesies
8Zodiacs
8puppies
3ico
6(abaa
6!es
?(b
7ndAdvisors
A?s(a
6Closed
7ontract!
6EndDate
6^
6Sale
7tartDate"

end Listing
end EvmFlow
