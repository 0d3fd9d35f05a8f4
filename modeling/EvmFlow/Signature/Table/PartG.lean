/-!
# Known signatures, part G
-/

namespace EvmFlow
namespace Listing

/-- Known signatures from `ecosystemAddress` to `getCallGasUsed`. -/
def partG : String :=
"0ecosystem!
:llocated
@ion
9Building$s
A|
9Incentive
9PercentOfTotal
9Reserve
9Supply
9$Supply
>s
9|
9token
2recoverFromSig(Edj
Adj
=VRS(dedd
9y(dedd
<j
2subtract(aaaaaa
2verify(deddb
:jb
1dCore&
2ge
4PerPosi~
4Range
2it(aaeeeec
6cc
5bb
6jf
4AccountData(bcj
5d(ac
6dressDescrip~(bc
5pi(aabc
5sset(aaakeee<uint8[10]>k
4Base^(a
4Card(eccc
5ell(ba
6rtificate(cb
5onnec~(bbdefda
7tribu~(baaaa
=ors(gh
Ch
5uts(R
4DailyLimit(a
5efinedGame(acaamaa
5iscount(aaa
4EarlyParicipantWhitelist(bf
5ntity(bfd
5therLimit(a
4Gardener(aaa
4It(nloccc
4MaxItems(e
5essage(c
6tadata(ac
5ilestone(aaaaacc
5odule(aabs
4Node(<CommonLibrary.Data storage>abfbef
9abfbef
4PayoutSetting(ek
5ersonalNote(ca
5ieceData(acc
4Rank(aaa
5estricted!(b
Gf
4Scores(hh
5pecial(aak
5tartlist(hh
7tus(acaa0
4Ticket^(a
6mer(ea
6tle(ac
4Whitelist(bf
4_safe(bcc
4ionCounts(ae
7Info(a
7Limits(ae
7Of(a
7Size
7s(e
4or
6s(b
4s(a
2oPerWeiDecimals_
9_
3$_
1exploitOwnn
1ffectiveMaxBet
1gc$
2gAvailable(k
3Limits(k
5st(la
3^
3s(a
5b
5l
4In@Slot(e
6dexes(a
4Owned(ba
4Sold
2r$
1idooSigner
5|_
2ghthTeamWithdrawal
7ime
2nzahlen
1ject
1lapsed
7MonthsFromICOStart
7Periods
2c
3oin
2ectActiveTranscoder(ada
5NewMayor(b
5ion
8s(a
3mentIndexToApproved(a
>Owner(a
7ToApproved(a
9Owner(a
7s(a
:aa
3venth@
2igible(aa
9ba
8?(ba
8ForBonus(ab
;Dividence(b
8$s
8Votes(b
3minate(a
:b
9From(ba
9SDCC(ba
2p=s(b
1maPeriods
3Value
3il
5s(b
2ergency
9(ab
:beddedd
:d
:f
9Addr
;min
:ndHiddenCapToggle
9Call
:ease
:lawbackEther(a
9Drain(a
?b
@a
<wingReset
;opEth
9ERC20Drain(a
Db
Ea
:thDrain(a
:xtract
9Finalize
;xGameResult(la
:lag
=AndHiddenCap
;ush
:reeze
?AllAccounts(f
:undReleased
9Lock
9Manager
:ode
9Overwrite(dee
9Pause
;y
:rotectedMode
9Redeem(ag
;fund
?(ba
?&
;serve
<tart
9SelfDestruct
;tABackend(db
<BBFarm(eb
<DAdmin(db
=Owner(db
<Owner(b
:plitToggle
:top
=(f
=Sale
9Thaw
:oggle
;kenDrain(a
>Withdrawal(a
:ransfer(ab
Bb
9Unpause
9Wd
:ithdraw
A(af
Bbl
AAdmin
AParsecs(a
Aal
C(a
Dbba
CActivated
CRatio
9_eth_withdraw
:token_withdraw(b
:used
:withdraw
B(a
Db
Cb
9beneficiary
5y_withdraw(b
2ission
8(a
9bbaaa
<kk
8!
?Update(b
8&!
8Enabled
8Limit
8On
8^
:ovider2index(b
@s(b
ACount
8Rate
8Stage
=s(a
;tusUpdate(f
8@
8locked
8s(a
3t(a
4ActiveChanged(f
5pprovalEvent(bba
:e(bba
>da
4BurnEvent(ba
4Change(d
4Error(a
:d
5vent(c
4Issue(dab
4MintEvent(ba
4OwnershipChange(bbd
4^sUpdated(aa
4RLC(a
5ecovery(bbb
6voke(dab
4$(ba
9s(a
;ba
:Since
:ToOther|(baa
5ransfer(bba
?dac
<Event(bba
As(bgh
<ToICAP(bbdac
4WithrawalRequestEvent(bb
5orkOrder(ba
4ters(b
2ojiIndexToApproved(a
<Owner(a
5san
2peror
3loyee!
8DenyExerciseOp~s
8ExerciseOp~s(f
8MigratesToNewESOP(b
8Pool$s
8Share
9ignsToESOP
8s
3owerAdmin(b
3ties(b
4y
5(C
5Cart
5Ether
5ShipCargo(i
5TTT
6o(b
7|
5WrongEther
:$(b
2tpyTo(bb
2ulatePurchase(bbaa
Da
1nable
6(e
7f
7g
6ATMExchange
7ddress(b
7ffiliate
7rea(c
7uthentica~
9oSeller
6Bets
9ting
=_only_Dev
7lacklist(g
7onus
7urning
=(f
8yBackMode(b
9back(a
6Charity
7odeExport
@(b
8ntract
;ibPeriod
=u~(f
;oller(b
7rowdsale
?Refund
6DefinedGame(af
7isable$Proxy
9trict0xNetwork$;s
7ona~
6ERC20
9721
7mergencyBlock
8ission(f
7xchange(a
6Features(af
7reeze^RateRecalc(a
7unding|s(b
6Genera~
6ICO
7co
7nternalLock
8vestment
@(g
9ite(cd
<OfSU(c
6KYC
6Lambo(a
7ockFlag(f
8stAndFound(bab
8tteryGiveHunt
6MET;s
7anager(b
8ster;s
E(f
7erge(f
7igra~(b
8nt
8x
6NewPurchasing(aaaaaaa
6Payable
7reSale
8ivateFund
8oxy(b
7ublic;s
8rchase
>(f
=ing
@(aaaaaaa
Af
6RealCap(aa
8demp~
8fund
<(b
<Period
<s
8gistra~
9ulator(bc
8nounceOwnership
8turnContribu~
6Sale
:Agent(b
7cheduler
7ell
8rvice(b
=Provider(bj
7howValue(f
7torage(f
7udo(f
8perDragon(f
7witch(d
6TeamWithdraw
7icker
7okenBurn
;Claiming(f
;Minting
;Sale
;Trade(b
>nsfer
Cability
Cs
;Withdrawals(bf
;s;
7rade
;(f
:ing
9nsfer
>(f
>Earlier
>ing
>s
?(E
@f
7uneOp~(a
6Updates
6Voting
6Whitelist
?(e
@g
7ithdraw
>(f
>al
@(f
@s(<PresaleLib.Data storage>bb
Bbb
>l
6_deposits(f
7refunds
7sale
6d
7(be
7!es(b
7Mint
;$s(f
7$Index(a
<s(a
6refund(b
6s;s
2code?(aa
6Currency(c
6$Id(mm
7ransfer(<uint96>b
6d_data
5ing_descrip~
9format
3rypt(c
7Counter(a
7edBallots(a
2d
3(bb
4c
4d
31@stamp
32@stamp
3AirDrop
6drop
4t
5Block
4uc~
:(a
3Block
8Bonus1
=2
=3
8Number
4ookings
4uffer
5yBackDate
3Call(daedd
7RequestDate(b
4laim
5oseSale
4oinFlip(ddd
5ntrib
:u~
4rowdFund
8Sale
<@
8fund
<(b
8sale
<(a
=f
<Phase1Date
A2Date
A3Date
=ublic
<l
4urrentGame
:PhaseIn(a
3Date
71
72
7ICO
7OfPreSale
9SaleStageLast
9VipPlacement
7s(a
7time
5yOne@
4iscount@
5videndPool
4ona~s
3EarlyBird
8Stage1
=2
=3
=4
4poch@stamp
4thGet
9$
4vent
3FifthWeek
5nalStage1
=2
5rstBonus
8DayICO
8Period@stamp
8Week
<ICO
4ourthWeek
4reeGet
4ullBonus@
5nding
:(a
:@
7raising
3GamblingParty(amm
6e
7(<Game><GameResult>
=Lib.Game storage><GameLib.GameResult>
8aab
9bbb
9c
:b
8b
9e
7Conflict(eaamadd
4rantAuthentica~(b
3ICO
6(a
614
6Date
6Phase
6Stage1
;2
;3
;4
;5
6@
:stamp
6_w1
82
6p1
72
73
6s
4EO@
4TO
4co
61
62
63
6Date
6MainSale
6PreICO
6RoundManually
6SaleRound1
?2
?3
3Lock
3MainSale
5rk
5tch(amm
4igra~
<Period
5nting
:(f
:@
3Number
3Of24H
5Day
5LockProject$
5Phase3
6reSale
5Rewards(f
<Confirmed(f
5SaleFullWithdrawal
5fering
3Pe@
5riodA
9B
9C
4hase
4laceOrder(a
4ostICO
4reICO
9Stage1
>2
>3
9@
=stamp
7co
9Date
6Sale
:Stage
:s
6$sale
6ico
6sale
:Date
:@
5ice
6vate
:ICO
:SaleStage
:sale
5omo~(a
4ublicSaleStage
4vtSale
3RC
4ace
5ffle
5te
4efundable@
9inging@
5gister@
5lease
4ound
8Seed
3STO
4ale
7(b
8f
7CarProduct(i
7Date
7@
4econdBonus
9Period@stamp
9Week
=ICO
5edStage
4plitAgreement
4tage1
82
83
6ke(ba
3TGE
4hirdBonus
8Period@stamp
8Week
<ICO
6sContact
4ime
71
72
7AddBonus
7Day
7ICO
8co
7Locked$sAdvisor
CTeam
7Main
7Number
7OfBids
8ne
7Pre
:ICO
;co
7Round1
<2
7Sale1
;2
;3
8tamp
7TLP1
:2
8oReturn$s
8wo
7inMinutes
7r
7s
8(a
8tamp
4okenSale
8sale
5urnament(aa
4ransfer
3Upgrade
3Vesting(b
<b
4oting
3_
4Dec_21_2017
4ICO
7(a
7_PreICO
7s
4LOCKUP
4@
4auc~
4block
4crowdsale
4date
4now
4redeem_period
4time
5s
3date
3ed
5At
5GameCount
9s(a
3ingAt
6=
7lock
6^
6@stamp
3orse(aa
7ments
4w(ba
3preIco(f
6sale
5ivate
:Ico(f
3round
3s
4At
4With(CC
3time
2ergy&
2force!Match
2gCommunity!
3Dev!
3ine
6er
3rave(cd
8dccd
7Default(dcc
7Namespace(ccd
7d$
2hancer
2jinTeam!
:lloca~
2list
6(b
2roll
6(aa
2s
3Node
3OwnerPx
3Resolver
3ureRegulated(b
2ter
5(a
7b
6b
7aeee<uint32[11]>
6c
6d
7u
8i
8k
5Arena(2b
5BidForCollectible(aa
;Gan$(a
;Punk(a
;Sketch(a
<tar(a
5CurrentRound
5Dungeon(2i
5Event(<uint256[12]>
5FreeRaffle(ha
5Game
5Large
6eague(haj
5Medium
5OnBehalfOf(hab
5Pool
9(5ba
:6ba
5Raffle(ha
6ecoveryMode
6ound(f
5Small
5|
6ithReferral(ab
5edTotal?
3ities(b
5led
5yOfUser(b
3ranceFee
;Pool
6ts(a
4epreneur
4ies(a
8b
8d
8s
4yCount
5Details(a
5Fee
8_
5Info(a
9rma~(bd
5Payout(a
;Due(a
5Storage(d
2velopeCounts(b
8Types(a
8s(a
1olBlockNumber
2s
3!Book(b
3ClassicClaimed(b
4rowdsale!
3PizzaSliceSafe
3ShareDrop
3$!
3t&
1pc
3wallet(b
2ic(a
4enter_works_addr
3sodeManager
7s(a
8Num
2m
2och
5Count
5Last
5ReleaseTeam(b
5_fund
6release_count
2silon
1qual(cc
5Bytes32ToBytes(dj
:ToBytes(jj
5s(CC
3ip&
5Down(a
5Up(R
5mentTrainingFeeMultiplier
1ra
3ByIndex(a
5Name(d
3Exists(d
3FromMokenData(a
Ad
3Index
3se(a
5Contribu~(b
5Match(a
5Node(o
5UnsoldPreSale$s
2c
3165InterfaceSupported(bs
H_NoCache(bs
6UpdateCache(bs
320
5!
6pproveChecking
5Buy(bacc
5&
=ByIndex(aa
=Switch(ba
=sSwitcher(b
5$
:;(bb
:s&!
5_contract
5contract
5old
5tk
6oken
423
6Activated
6Fallback(baj
6Recipients(b
3677token
3721Metadata
3820Registry
2ectBarrier(kee
2otixFund
:Multiplier
2rCounter
3or
5(c
5Message(c
5TickerQueryError(cd
2t
2up~Threshold
1scFund
7!
3alateDisputeToMediator(a
4pe(b
6Caller
6Destina~
6Funds(ba
6Hatch
;(b
;Caller
;Destina~
3row
6!
8min
7llowed(b
7mount(ba
6=
6&
>s(a
8unt
6Database(ba
7ecision(aa
6Fee(b
7rom(ba
6History(baa
6List(b
6Return(baa
6$s|
7ransfer(ab
?bbaa
>Info(ba
>List(a
6|
6ed$s
6s
7(a
8d
2opState
2tLiquida~Cap
3ablishBorrowerReturnFiatPerEthRate(a
4teData(a
3eem(dcb
3imate(a
8=Of(b
8NeumarkReward(a
:xtPotSeed?
8PurchasePayment(aa
8$Number(a
=s(a
8dFunding?(aaaaaaa
9Weight
1tap
4!esLimit
2c
3Supply
3|
3h(g
2h
3(b
32mnt
4qiuRate
3Addr
7Ndx(b
7ess
4mount
4uc~
4vailable
3=
:(b
:Of
<(b
:s(b
5se
7=(b
4ioxRate1
;2
3Cap
4ollected
:or
5ntract=
8ibuted(b
6vertRate
5stTotal
4rowdsale
3DailyLimit
4eltaDeposit!
5posit!
:s
;(b
4ividend?
4ona~(a
3Et4Rate
5herOffered(b
4ur
6Frac~
6Rate
4xchange|
3FnkRate1
:2
4orKey(a
5undDeposit
4und!
7Deposit
>!
7Main
9nager
7Raised
3Given(b
4oal
3HandleIsRegistered(d
9Registred(d
3Ico(b
4nWei
5_
5vestedDuringICO
9ment(baaaa
3LandSaleOpen
5stUpdate
3Max
4in
6Contribu~
4ultisig|
3OdinRate1
;2
4fferors(a
4n&(b
4wner
3Pause
4erTransac~Limit
4lanList(b
4ossibleRefunds(b
4re?
6Ico(b
5ice
8Feed
8In
:Cents
:EuroCent
8Per$(b
9rovider
5omoHelpers(b
3Quantity
3Raised
9!
5te
71
72
7Changer
7InUsdCents
7Max
7URL
4eceiveMainSale
:d
;Main
;Presale
BOne
BTwo
5deemed
5fund?(a
9s(b
5leased(b
6ief
5trieve
5verse(a
5ward
9Part
3Sale(b
5ver
4ent
7(b
4hop=(b
4ignedMessagePrefix
4old
4tore
3TaxRate
4eam|
5ller=(b
4oBeClaimed
7Distributed
BSet
5Cents
5DividendsNeeds
5Fiat(aaa
9Delivered(aaaa
Fc
5$
:Conversion
:Denominator
:Numerator
:Rate
:s(a
5Usd(a
8ExchangeRate
5Wei
5ken
8Rate
3USD
6Oracle
4npause
4pdates(a
4sd
6^
6Rate
:InCent
3Verify
5st
3|
4eiRaised
4ithdraw
3_amount
4balance
4cap
4decimal_num
4is_seeded
4meth
5in
7imum
4ratio
5eceived
4seed_amount
6nt
8(b
5tored(b
4to_usd
3addrc
4rtArtAwarded
9Reward
6RevenueReward
4sh&
3ealController
6Multisig|
6$
4rAccumulator
6ddress
6mount
5=
<(b
<Of(b
<s(b
>e
6ounty(ba
7xes(b
6ros(a
5Cap
6ollected
7ntributed(b
>ionOf(b
As(b
7st
5Delta
:Info
5ERC20
6scrow!
6xchangeLikeCoin
5ForCharity
8Owner
6und(dc
9sOf(b
5Get
8Base
5HardCap
7sBeenReturnedToInvestors
6older
5In&
7USD
7Wei
5Leaked(a
7ft
6imit
6ock
7wLimit
5Master|
7ximum
6inimum
5One
5Paid
7rti~(a
6erMiner
8Sale
6rice
:InDollarIn
BOut
<PoundPences
<USD
=sd
:USD
=WEI
:sAreClose(aa
7oceeds
=Account
5Raised
;ByState(a
;Per|(b
7te
8io
:ForInvestor
=Owner
6eceived
=Crowd
=Private
<rs(a
5Sent(a
6ince100
:20
:50
6oftCap
6pent(b
7in
7lit(bb
5ToDust^
7LEONRate
7SendBankroll
;Charity
;Jackpot
7$s(a
?a
7USDRate
:rate
7Wei(a
7ken
:s(b
6ransfer(ag
>ba
5User(b
5Value(a
7ult
5|
6eiRate
5_per_token
7rofit
5affle
6ndomCallback!
:Exec(dda
>WithGasLimit(ddaa
:Seed
>WithGasLimit(a
<tNetwork
:Verify(dddaa
5delta
5eum=(b
8ForkArbiter
:unda~Tickets
9romAltar
8Lottery
8^
8SaleRate
8To$s_(a
8Wei
5flip&
5list_top
5nautsStorage
5ollBeneficiary
C?
5sCollecteds
8ntributed
6_collected
5toteDevelopment;Complete
D|
5wow
3forp3dbuy
3orseOracle(bdcf
3pause
8d
4yramid
3raised
4eceived
3unpause
4sd
2l&
2oken2
7Symbol
2s&
2x!
1urId
3Raised
3oCents2wei(a
9InOneEther
4Lock
4Raised(a
:ICO
:Rc
4Teams(a
5hreshold(a
4teambet
1v(cba
2Created$(baba
2Freeze(ba
2Harvest(ba
2IssueManagementFee(baaf
2Kickoff(baa
2LockFund(ba
2MgmtDistributed(baaf
6InvestProject(babaf
7ssueBounty$(babaf
3in$sReached(baa
2PayOut(baba
2Record(bac
4fund(babaf
4leaseFund(ba
2;(babba
2acuate
8(b
8ToVault
:kens(b
3lTransi~State
4uate_model(a
7ion_stage_block_size
2c
2eFromEth(aa
3PerEth
3nDistThresh
4tApproval(bba
5Burn(ba
5CardRangeMax
?in
6ontract
5Date
5Ended
5Listener
5Manager
5Name
5Paid(baaa
7use(f
6irze(be
5SaleEnd
6tatus
5;(bba
5Venue
5Website
5count
5s(a
7c
6Admin
6History
3ry15
5BidFee
5oneDisabled
2ictWorker(b
3denceInterval
2ntCreate&(bbbbac
2olveAxie(aa
6ByAtom(a
6CryptoAvatar(aaaaa
6Genera~(a
Ak
6Monster(ak
1xFeeRate
5Total
5s(a
2Owner(b
2cava~
3eed
4pt!es(b
6ions(b
4rciseOp~(babaaa
4ss
6Eth(b
6$sBurnt
6_token
7withdraw
3hFee
4ange
8(ab
9b
:a
;ca
8AccountsMap(b
9dapterManager
?s(d
:dress
:min
9ndSpend(bab
8BBD=
9alanceOf(b
Cb
9ounty(ba
9yPet(aab
8&
@_
8ERC20(bba
9TH
9nableCost
>d
:d
9therForHavvens
GAtRate(aa
@Nomins
FAtRate(a
=On$s(b
8Finished
9lag
9orETH(a
;QIU
;mula
8IEO
9d
:sToOpenMakeOrderIds(ab
9nforma~(b
:terval
9sRegistered(b
;unning
8Level(a
9imit
8MethodIsAllowed(bs
8NominsForHavvens(a
HAtRate(aa
8OldVersion
8Partners(a
Ab
9layer$Count
9ointToCoin(bac
9reDGZ$s
:ice
8Rate
<(a
<Agent
=rray
A(a
=t
=uth
<ChangesBlock
<ETHToUSD
<ForBTC
?ETH
<Ico
<Oracle
<PreIco
<RoundOne
ATwo
<@stamp
<USDTo$
<s
=(a
>b
;io
=s(b
9egulator|
8Start
;te
9upply
8Threshold
9oken
=(abb
>ba
=Rate
=s
>(a
?ba
>By!(abb
@Id(aee
>FromOther&(bba
9ransfer(ba
8Weight
8_
9coefficient
;mmission_wallet
9rate
8able$s
BFromSale
Gtock
8d
9Num
8queue(b
8r
9s(b
8s(a
9Accounts(b
9LockEndingAt
9Owner
9Status
9ToOpenMakeOrders(bb
;kens
9|
4g(b
4nageRate
3lude(b
2ec(b
6dj
6ja
5dda
6j
4Board
5uyBack(a
4Custom(bjaa
4WithGasLimit(ddaa
4_admin
4ute
7(<CallLib.Call storage>abaa
8a
8b
9aaj
:c
:j
9j
8d
9bm
8gj
8jj
8poobaj
7Ac~(a
7Batch;(gh
8eneficiary(a
9t(af
;bbfa
8id(aaa
:For(baaa
7Call(baaj
8onstant
:tract
8reator(a
7Decision(a
9legatecall(baj
7EmergencyWithdrawal
8therDeltaBuy(abaaabeddda
ASell(abaaabeddda
7Lock(qb
9ttery
>(b
7Offer(b
8p~(ba
=s(bac
8rder(<address[4]>z<uint8[2]><bytes32[4]>
=aa
=dab
<s(gGhhgg<address[8][]><uint256[6][]>hpoo
[6][]>hpooa
7Proposal(a
Aaa
Ab
Aj
8ure
7RemoveAuthorized!(a
9quest(a
?d
?i
8oom(a
8uling(a
7Selfdestruct
:lOrder(<SellOrder>
Ab
9ttingsChange(aaaaaaa
Ma
8ignatures(pooj
8pendingRequests
9ins(dj
8ubscrip~(a
7Transac~
B(a
Cba
Ej
Cd
<fer
8xn(baa
7Vote(a
7_transfer
@(a
Ba
@_all(a
7d
8Count
6iveOfficer!
6or
3mpted_accounts(a
3rciseCall(aaa
8ExpiredEmployeeOp~s(bf
8Fee
8Long(vLex
>zex
8Op~(FJ
?a
>s(baaaf
?Deadline
8Put(aaa
8dOp~s(b
2haustAfterBattle(aa
<Fusion(aaa
7Chibis(aa
2istCaller(b
5Platform(d
6ublicKey(b
?db
5ingCategory(a
9ontribu~(bb
8Ids
;(d
8MarketOrder(a
5s(<CLL>
<m
8GroveLib.Index storage>d
7Zd
7a
8aa
7b
7c
7d
8d
7mm
6&(b
6Managed&(ab
6^OnAssetPair(bb
3t
4(a
5ba
5d
4!
4Fee_
4OverPlayer
4Pool
8(5b
96b
4Scam
4ThisIcoForHalfOf$^
4|
2odus
3town$
2p(aaa
4m
3ForLevels(a
3Percentage
3Reward
3Tx(aaa
3and
6Negative128BitCast(a
6Period(e
6X
6Y
6ed
3ectPayment(ud
6ed?
8Dividends(b
8Payout(b
8Rate&
8WinnersCount
4rienceDelay
:ToLevel(a
5tThreshold
7okensPerEth
6sAccount
3ira~
:Block
:Check
:Date
:InSeconds
:Seconds
:@
>stamp
:s(b
5e(aaeddd
8eddd
7f
6Associate(b
6Bid(b
6Date
6Game(a
6Op~(babaaa
6@Limit
6d
7(a
7Count
8rates(b
7LockPeriod
7@
6s
7At
9(b
5y
6Block
6ChangesState(a
6Date
6Epoch
6Limit
6@
:stamp
6_date
3lodePhoenix(a
7Supernova(ba
5ra~Results(aa<uint16[10]><uint8[10]><uint8[10][10]>
M5]><uint8[5]><uint8[10][5]>
6e(aa
:a
7IndexToCrew(a
3onent
4rt(bubbaaj
7ubbaaj
6Fee(b
6Tank(bi
:ResetEarning(i
6edBurns(a
7r
8AcceptedIBankDraft
8Banker
8ReceivedPayment
2rate
2tBuy$s(baa
3CreateBot(aaaab
9Ninja(aaaab
4ustomerPolicies(da
3DestroyBot(a
:Ninja(a
3GetLock(a
4oalReached
3LockBot(ak
7Ninja(ak
3Owner
3UnlockBot(ak
9Ninja(ak
3end(<bytes16[]>l
7a
61Week
6Closing@(a
7rowdsale(a
6Deadline(a
@a
7ura~(a
6End@(a
7xpira~(a
6ICO(a
7co(a
7tem(ba
6Liquida~Period(a
7ockPeriods(af
6Membership(a
6PRETDE(a
7eriod(a
7reSalesPeriodWith(a
7ublicSaleDiscountEnd@(a
6Round(ka
6Sale(<uint56>
;a
:EndDate(a
:@
6TDE(a
7de(a
7ge(a
7ime(a
6UnlockDate(a
6_end_block(a
7life_of_contract(a
6ed
8@
9okenCap
5sion@
9s
4rnalBonus$sAllocated(b
9uy(baa
8CallFlag
9ontrollerCandidate
Bs(b
8Decline(ad
:posit(ba
8Enter
8FundsRaised(d
8Leave
8PaymentDescrip~s(d
9urchase(ba
Bcaaa
Ccaaa
@$s(baa
8Sale(baaa
<s(ba
>poghh
9torage
9upportersMap(b
8$DecreaseApproval(bba
Qb
=IncreaseApproval(bba
Qb
=;(bba
Ib
EFrom(bbba
Nb
=sAllocated(b
>Recovery(b
9xs(ad
<ed
8_oraclize_randomDS_proofVerify(jdjc
KsetCommitment(dd
9to_internal_block_number(a
3inguish
3ra(a
5=
<Needed(a
<|
6onus
5Discount(a
8tribu~Part
5Emission(a
5Mint
9(a
:b
9Array(g
>Pending(g
EProcess(a
9ed
5Rate(aa
5StatsForGen(a
6upply
5@
6okenMint(ba
:s(a
<bba
;Allocated(b
;Holder
;MintedDuringPresale
;PerUnit
>cent
;;red
;|
5_bonus
;_amount
<dura~
6time_bought
5ct(b
7AccountAllowanceRecordLength(b
>Length
8llowanceLength
@RecordLength(b
8pprovedIndexLength
7BTH?(c
8alanceOfLength
>ProofSignature(biVj
8ytes32(ja
7CLNfromMarketMaker
I(ba
8allData(<Call>j
ELib.Call storage>j
8losingSignature(biVj
7Ether(b
8xportFeeChargeLength
7FeeLength
:s(a
8rozenAccountLength
8und(a
7ImportFeeChargeLength
8nvoicedLength
7MasterKeyIndexLength
7NameFromData(j
CET(j
7Ore(c
8versight!esIndexLength
7$(bb
<Eth(a
<s(bb
7Vault$s(bb
8estedOp~sComponents(aaa
7Wei(a
7ableFrac~
;Percentage
2y
0f
1Use?
1You(bcc
1abric$Safe
6s(b
7Addr(a
2ct
4Hash
4TeamOf(a
4or
6Contributed
6Weight
6ial
9_ICO
6y
7(b
7!
7&
7Owner
7ToAssetId(a
7_address
8index(b
4s(a
2dd
2il
4Crowdsale
4ICO
5nvestPercents
4SafeLimit
8Mode
6le(a
5end
5tage
4UserRefund(a
?h
4ed
6ByDeveloper
6Dona~s
?(b
6Kyc(n
9Count
9List(a
6Verifica~Slash?
7otingCount
4ingRefund(ba
4sOf(b
5afe
4ure
7s(a
3randeasy
4saleProtec~
BOFF
8_protec~
COFF
4ymasterReq
2keNow
2lconmasterReq
3lback
8(b
8Account
8Payout
8RP
2me=(b
4dStar!
9MassToIds(a
9NameToIds(d
9s(a
3ily&
2rewellTo(b
3mCities(a
4Items(gh
4er
6RequestCertificate(baccca
2shionArray(a
3tCashBank
4Hatching^
4ICO(a
4SetCacheClassInfo(iiii
4$Sale(a
2tigueBlock
2ucet
6(bb
6ThresholdSecs
7oken!
6Users(bb
1cc
3Controller
2i(b
3Decimals
2ontr
1eature^
7Sprite(a
7dSprites(a
?Length
2charDoacoes
2e
3(a
4ba
32
3Account
:1
:2
:$
:s(b
4ddr
7ess
4ffiliate
4mount
9Threshold
4uthority
3Bank(b
4ips
4ps
4urner&
9Wrapper&
@Proxy&
4yClass(a
3Calculated
;or
4hanged(aa
4oowner!
3Decimals
5nominator
5posit
4ivisor
3Fixed
4or(bba
6ArtWorkChangeRequest
6FirstArtWorkChangeRequest
6SplitterCrea~
6TheStakingInterval
4romTotalCost(aa
@ForAccount(aab
4unds
3Game
3InBps
5Circula~
5dex
5fo
3Lottery
3Make
7Exporter
4ode
6ifiers
4ultiplier
3NewThread
4umerator
3Owner
3Payed
8PerReserve(b
7e
6ment
4ct
4erSec
6UnitOfCoin(a
6c
7antage
7ent
:_
:age
=Max
:s(a
6iodDura~
9Start@
4ool
5t
4rice
8s(a
5omille
3Rate
6io
4ebate
9s(b
5ceiver
;&
;|
6ipient
5plyThread
3SharingBps
3Take
7Exporter
4oken
3Unit
3|
4indowBurn(ba
5thdraw
;n
3_balance
4claimer
4msg
4percentage
4ratio
5egistra~
3d
4(a
41(a
50(a
60(a
7AndPay(a
450(a
4!
4Message(acc
4Tweet(aac
4Unicorn(a
4me(a
3rate
7(a
3s
4(a
4A
5vailableForWithdraw
4B
4C
5ollected
6ntroller
4D
5ata
4Gathered
4Per10000
7Million
5ool
5rofitDeposit
4Rate
8Congres
8Team
4SeperateFrom=Approximately
5trategy
4Taken
4Withdrawn
4_
5(a
4end
3wallet
2tchCurrentSatoshiState
5Day$s
5Funds
5Profit
5Rate
5Slot(aa
6uccessfulSaleProceed
5$=
5UndistributedProfit
1iat
4=
4Collected(aaa
@c
=ToEth(aaa
Ec
6st
5urrency
4Delivered(aaa
@c
6posits
4Fee
4InvestorShare(b
4PerAssetUnit
7Eth
4RaisedConvertedToWei
4Send(baa
4ToEth(aa
4Value(a
9Multiplier
4_contract
2bokenCreatedCount
7UsedCount
4nacciIndex
2daPerEther
4$!
3get(b
2elds(ba
2fishICO
3teenPuzzles(eee
4h
5BonusSalesEnds
5ExchangeRate
7tendedBonusSalesEnds
5TeamWithdrawal
6ime
5Week$^
4y_fifty
6two_weeks
2ght(aa
6bc
6ddd
6ik
5Agon(llaa
6uc~
5Factor
5Mix(aa
5Start@
5erCore
7IndexToApproved(a
>Owner(a
>Team(a
7sToBattle(aa
5s
2leLink
4hash
4s
5(a
6da
3l(U
5babbabaaedd
5h
4Bid
7By!(b
5uyOrder(aaa
<Partially(aaa
4&
4Gas
4HeldData(gh
4IndexedBid(a
>By!(ba
6vestorAccountWithBonus(b
4MyOrder(a
4Op~Order(FJybf<uint96>ex
Cfex
Dfex
5rKillOrder(<address[5]>Raedd
6Market(b
6der(<address[5]>Rafedd
:F2edd
:aa
:ba
;dad
9Auto
9sUpTo(<address[5][]><uint256[6][]>afpoo
4SellOrder(aaa
=Partially(aaa
4TheBank
7irOrder(b
5rade(babaaaedd
4UpAllowance
6Project(aa
6Slot(aa
4ed
6(bd
7d
4s(d
3m
4IdToApproved(a
8Owner(a
4amount
4paid
3terTransac~s(f
6s
7(a
2nal!
6lloca~
5=
6lock
:Number
6onus
5Cap
5IntervalFor$Gen
5Loos
7ser
7ttery
5Pot
6rice
5Rate
6eserveAlloca~
<@Lock
<|
8ult
;Str
7wardPeriodEndBlock
APercent
5Send$s
6tageRefund
8kes(a
5Tier
7me
9out
9stampOfBonusPeriod
6okenExchangeRate
:sIssue@
5Unlock;
7pause
<d
5Value
5Window@
8ner
7thdraw
5_fundraise
6price
6share_price
;s_sold
5ise
8(b
8As(b
8Crowdsale
8FirstPhase
8ICO
8PreSale
8@
8Voting(a
8d
7tTeamFIFAIdsSet
6za~
7e
8(a
:a
9b
:bbb
9d
9f
9id
9jjf
81
82
83
84
8Agent
9ll
9ndDistribute$
;PayoutForHopeful(aaaa
9pproved&s
9uc~
?(a
@d
8Bet(aaa
9lock
9yAdmin
;rbitrator(dd
8Campaign
@(a
9hangeBurnBounds
>InsuranceFees
Cer
>Name
>Staker
BingFees
9onfig
=rma~Period
;tract
@(a
9rowdSale
=fund
Aing
=sale
A(aaa
Bb
AAnd$
9urrentStage
8Delega~
:scrip~
9ona~(b
8EarlyBirds
9nableRefunds
:d@
8FirstStage
9ork
9unding
?(b
8ICO
;Owner
9co
;Date
9nit
:vestorsByList(g
9t(b
:o(aaa
8LastCampaign
9ottery
?(a
@kda
8Migra~(b
Cb
:nt(a
8NOK
9ame(bc
9extUpgrade
8OpenSale
8PRETDE
9artnerSale
9hase
9reICO
>(a
<coDate
;Sale
;sale
?(a
@b
:ivatesale
9ublicICO
>Sale
8Reclaim
?(a
:funding
>s
:mainders
:placeTrueUSD
:served!(b
9oom(e
:und
=(a
>des
8Sale
<(<InteractiveCrowdsaleLib.InteractiveCrowdsaleStorage storage>
=aa
<1
<2
<3
9econdStage
:edSale
:t
;DelegatedFrom
9ingleInvestor(b
9tage
;rt@
8TDE
9S
9ask(a
9emplate
9okenSale
=sale
9rade(babaa
;nsfer!Type
@Child(a
ErenOwnership
9ype
8Upgrade
8Voting(b
8WhenForked
9ork(bccc
<Order(bccc
8_contract
8backup
8d
9Block
9Capital
:rowdfunding
9ICO
9NextUpgrade
9PreICO
:ublicICO
9Refund
9@
9Upgrade
5ly(b
5state
5yze
8&
4nReserveAlloca~
<@Lock
<|
5VestingStage
As
5ce
7PeriodsCount
>@stamps(a
6ialAccount
9Officer!
9Strategy
7ngPeriod
3d(CC
5a
4!(b<address[] storage>
=g
<d
=d
;ByEndpoint(c
5llCliWithPendingTask
I(b
5ndPayTheWinner
5uditor(b
4=(b
5estAsk(ba
8Bid(ba
8Rate(bba
5oundingOrders(eadddd
4CliPendTAndSetPrfm(bb
5urrentIndex(b
4Dsp(b
4ElevenPmUtc(a
5mptyBenefactorIndex
5ndpointBy!(b
4FloorKey(a
4Job(a
4Key(baaa
5ingdomCalled(c
4Lover(b
6westBenefactor
4Oldest
5utInterestByBank(aaa
AClientCategory(baa
4PossibleDelegatorsOf(b
5tr(aaaa
5ublisher(b
4RecentInterest(b
4Ssp(b
4TargetCell(aa
5enAmUtc(a
5rusted&(b
4Winner(a
:s
;(a
4_contribu~(b
4erFee
4ing(bup
3es(<Campaign>
3gerprint(b
3ilize
4sGame
5h
6(<RaceLib.Race storage>
7a
7b
8b
9b
:b
7c
7k
6Airdrop
=s
7lloca~
7uc~
6Ballot(d
7et
7onusPeriod
8untyAt
7urning
6Campaign(d
7hampionGame
7onfigura~
9tract
;ibu~Period(a
7rowd
;Coin
;Sale
;sale
?Minting
7urrentGame
=Limit
6Date
7eal(a
7istribute
?ion
8vidend
>s
6Elec~s(a
7thGet
<$
7vent(ba
7xchange
6FreeGet
=$
8omDutchAuc~
7unding
:raiser(a
6Game
:(a
<a
;e
;id
7enerating
@(f
6Hardcap
6ICO
9(bbb
7TO
7co
9(bb
<bb
7nitOwners
8vite
7ssuance
6LastCount
6Migra~
8lestone(c
8nt
:ing
=(a
>b
>f
?f
=Issuer
=RequestSetup
=STO
>truct
=$s
6PREICO
7VE(a
:i
9Batch(h
?w
8P
7ayaning
7hase
7re
9ICO
:co
9Sale
=2
=3
=4
=5
=Round
9sale
=(a
?a
8ivatePlacement
=Sale
AAndStartPreSale(baaa
8oposalVoting(a
7urse(a
6Race(ah
:ThenStartNext(ahaaa
7esolveFund(dc
8trieving
7itual(b
7ound
;A
<ndStartNew
;B
;C
;D
6Safe(b
8le
9vage(b
7ettlement
7ingleLock(b
7pin
7unning
6@
7okenMinting
;sSale(a
8urnament
7ransfer(a
>FeePayment
6UpRound(mc
8grade
7serDistribu~
6Voting(a
=ba
6When
6ed
8(i
8At
8CarCount(a
8GameWithdraw
8IssuerMinting
8Loading
8Migra~
8Promo~IDs(a
9urchase
8RaceCount
8STOMinting
9ale
3ney2LemoRate
6Per$
6ToWei(a
3shCrowdsale
2psAddToLedger(rb
Bj
4ChangeOwner(rbb
4Generate
4IsRegistered(r
4LegacyRegister(<bytes20[]>b
Crbj
BMulti(<bytes20[]>bj
4NotaryLegacy68b4
4Owner(r
4PublishData(rj
?Multi(<bytes20[]>j
4Register
<(a
>bj
>j
=b
>j
<Multi(abj
4;(rb
<Multi(<bytes20[]>b
2re
4Admin(b
4CancelProposalEvent(ba
5loseProposalEvent(ba
4DeliveryProposalEvent(ba
6positToChildEvent(a
4FightResultsEvents(<uint8[4]>
4PaidProposalEvent(ba
3st
5(<!List.Data storage>
>SetLib.!Set storage>
7Data>
5!
<At(a
6lloca~
6uc~Concluded
<sExtendableDura~
CedChunkDura~
EDura~
=HighestBid
Gder
=InitialDura~
=Referrer
=StartDate
5Block
6onus
:Ends
:LimitPercent
:Percent
:Rate
:SalesEnds
:$sLimit
6uyers
5CapEndingBlock
7r(a
6hainHNw1
8ngeBlock
7eckpoint
?^
7ipBonus
6laimBlock
6ontract!
:ibutorId
6rowdSaleDate
>EndDate
6urrent?
5Day
8Cap
8$Limit
6epositDate
<@stamp
6igit(c
7scountCap
=^
6ueDate
5EntranceToSaleStateUNIX
6xchangeRate
APeriod
7tendedBonusSalesEnds
5Free!Index
5Holder
5Level^
6ock?
9@
7os
5Max?
6embershipPurchase
6intRound0(a
?For(ghG
Ep
5Name(b
5PartOfTeam$sClaimed
7y
6eriod
;Cap
;EndDate
;OfICO
6haseEnd@
6lacePot
6ostIcoContributorId
6reSaleDate
@1
@2
<EndDate
C1
C2
8saleEnd
<Start
7iceChange
8vateLock@
@ed?
<Release@
6ublish
5RankForFree
7te
6edemp~Request
7fundRoundFinish@stamp
@RateDenominator
DNumerator
7lease
<?
<Period
<@
7serveAlloca~
<@Lock
<|
7wardPeriodEndBlock
APercent
6oundCosmosDiscount
@End
@Start
@$sLimit
:ICODiscount
=End
=Start
=$sLimit
:Losers(a
:Start@stamp
:@
:WMDiscount
<End
<Start
<$sLimit
;inners(a
5SaleComplete
9Delivery(ba
9SpenderTxDetails(a
6ellHSShop(aaa
9SaddleShop(aaa
6tage
:Cap
:Datetime
;ura~
:EndsAt
:Fund(b
:Minted
>ing
ADate
:Raised
@InWei
;efund
:StartsAt
:$sSold
<talSupply
:|
8rt@
5TTax
9?
6arget
6eamContributorId
9Withdrawal
6hawDate
7ousandUsers
6ierDiscountUpperLimitEther
7me
9Line
9r
6oken(b
:Cap
:ExchangeRate
5UnitStart@
7lock@
;ed
5ValidBlockNumber
6est?
9StartsAt
9edLockUp?
5Wave^
6eek
9Bonus
>InWeek
9End@
9MainICOBonusEstimate
9PreICOBonusEstimate
DRate
9$^
6ithdraw
=?
5XRChangeBlock
5YearEnd
9GameMining$Cap
9Mined$Cap
5_bonus_amount
<dura~
6partner_address
8y
7layer
5block
5roundprice
5saleOpen
2shPromoHelpers(b
4bank
4es(a
2t
2veHourCap
8s
5undredThousand
4MatchPayoutInPercent
4YearGrace
4times
2x
3!(ba
4mount
3=
:Internal(b
3Distribu~(ea
3Investment(baa
3PayAmt
4ermission(bbef
4layerCountryId(aa
@String(ac
9Flag(ac
9Graphic(ac
9ID(aa
9Middlename(ac
9Prename(ac
9Surname(ac
4rice
3Sale
7Completed
4pecica~s(af
@f
3$s
3USD^@
3Withdrawal!(b
3_amount(a
3amt
3ed?s(b
5Exp(a
:e
9m
8Unsafe(a
@e
5FeeInCWC
:Wei
5Log2(a
;e
8e(a
;e
5^
5_value
1lag(ab
5b
6f
4_hash
4s(b
3tFee
2exibleReward
>Level(a
2ip32(d
4CapSwitchTo(f
5oin
8WithEther(ee
4Execu~SwitchTo(f
4FinalizedSwitchTo(f
4Ids(a
4MovingSwitchTo(f
4RefundSwitchTo(f
6ward?
4SwitchTo(f
4TheCoinAndWin
5okenReward
4s
5(d
5Completed
5Lost
5Won
2oaks!
4tEconony
5Holder
3or
5&s(i
5Id
5Log2(a
5^
3w
4(a
4erAllowed(bb
7uc~
6=s(b
6&
6TotalSupply
4ingHair!
2uffyCat!
9Cut
3sh
5(a
5Dividends
>(a
5ERC20(b
6TH
6th
8ers
5Forwarder$s(bb
5HouseFees
5$s
;(b
3xFeed(af
;f
2yDrop(gh
1mp&!
1nv(<>a
1og
2lio$
3low(a
7d
2mo3d
2otballerToApproved(a
<Owner(a
:s(a
2rBounty
3Command
3Fund
3Genesis
3Lottesy
5yalty
3Owner
3Presale
3Sale
7(ba
7Supply
4ell
3TeamCOT
7ETH
3_longterm
4rewards
4sale
4votes
3bid(b
8bd
7ddd
6Deploy(b
7irectDebit
6denAc~
3ceBurnFrom(ba
7y(bb
5Cancel
6hange&Ownership(b
7ooseRandomWinner
6lose(a
6rowdsaleRefund
5DivestAll
>(f
;OfAllInvestors
=OneInvestor(b
5End
8Call
8Game
<(b
5Finish
;ed
5Game(aa
5Liquida~
5NSFW(af
6euroChain!(bc
7xtStage
5Off
8setBasicFeeRate
<ooks(b
;ExecuteFeeRate
BMaxFee
=traFeeRate
6raclizeUpdate(a
5Pay(aa
5Refund
;State
;ing
7jectVotes(db
7seed
9tPeriod
5SetStatus(e
6tand(<Game>
@Lib.Game storage>
8rt
5$
6ransfer(ba
?ba
=From(bba
5UpdateName(c
;Prizes(h
;Winners(g
7grade(g
5Withdraw
=(b
=Payments(b
5_partial_refund(b
6received
8fund(b
6stop
5dRedeem(ba
8fund
<(b
6;(bba
>All(bb
3ecastInfo(a
8Of$(a
8ingClosed
8s(b
4ground
4ignBridge
8uy(baa
=c
:Test(aa
7DailyLimit
7Purchase(ba
4st(a
4verBlockBattle!Update
3feit(d
7Game(a
7Shares(a
3geItems(aa
=b
5$s(ba
7olQuality(a
5tCube(b
4iveIt(b
7Me
9OnBehalfOf(b
7dChars(a
3k
4!
5ndRedeem
4ed
4ing
3mated_data_url
4ula
7(a
7&
7Precision
3thWeekMainICOBonusEstimate
4ifyClaims(Naf
>bNaf
4nightsFromLast
4une_arr(a
8bid(a
9reak_current
8endauc~(a
8limitbreak
8new
8open(a
8sell(aaa
:timgnme(a<bytes32[144]>d
7s(a
4yEnd@
3ward
7(b
9aj
9j
:a
7CallGas
8oins(a
9llectedEther
7End@(a
8ther
7FundToCompany|(a
;s
<(a
>b
=ba
7InvestorTransac~(bj
7ManyTransac~(h
7PurchaseFeesTo
7SomeFunds(a
7To
9(bbaj
<baj
9Hot|(a
9kens(ba
8ransac~(aj
7UpdateFeesTo
7_pass2(hBBBBB
7able(b
7ers_count
2und
5Evidence
5NewGamblingParty(aaaaaa
5@
5a~
:Addr
>ess
;mount
;sset
:Board
:Deposit
:FundMultisig
>$CountInWei
:Hashed
:Lock
:Multisig
:Reserve
:Share
;upply
:Target
;imelock
;okenHolder
?Supply
?|
?sAllocated
@Vested
:VestedPayment
:|
;ithdraw(a
:_coins
;vesting_contract
:lock
5er
71
8!
8|
72
8!
8|
73
8|
74
8|
7Addr
;ess
9ress
8llocated
@@
>ion
8mount
=s(a
8ndTeamSent
7&
7EggSupply
7Fund
7List(a
8ockEnd@
;ance(b
;up
7Members
8ulSig!
:tiSig!
7Of(a
7Percent
7Reward
7Share
8torageVault
8upply
8witchRequest(dd
7@Lock
8oken
<Count
<UnlockPhase1
G2
G3
G4
<Vesting
<|
=ithdrawnPhase1
J2
J3
J4
<s
=Allocated
>vailable
=Vested
7Vesting&
7|
8ithdraw
?(a
?ablePhase1
H2
H3
H4
7_token
7s
8(a
9b
8!
:visorsPartners$sVault
9llocated?
?ion
9mount
>Left
8=
8&
8Fund
<!
<Multiplier
<@lock1!
D2!
D3!
8Key
8Percent
?OfTotal
8Reserve
:ward@
>sAccount
?Minted
8Stake
9upply
8Team
9imelock1
@2
9oken@lock
=s
>!
>Disbursed
>LockedPeriod
>Percent
>Reserve
>Unlock@
>|
DMaster
DSlave
8Vault
9estedPayment
8|
>1
>2
>3
8_1
92
9addr
=ess
9wallet
5ingTeamSupply
<|s(a
9ime
4tain&!
3rth
6BonusEnds
;SalesEnds
6ChainETC
6ExchangeRate
BPeriod
8tendedBonusSalesEnds
6^@
6Release
6Stage
;Minted
?ing
BDate
6TeamWithdrawal
7ime
7okenExchangeRate
6Week
:Bonus
:$^
6_whitelistSupplier
4weeks
1pct_packet_size
1racExp(aaaa
4~
2ee
4(a
5da
41Of(a
42Of(a
4Account(b
5nimalsLimit
4=
;Of(b
;sOf(b
5eerOnMe(c
6t(b
5leachNum(b
4Cash
5laimAllowanceOf(b
5ount
4Ether
4ForAll
7Carrots(a
5rom(ba
8UpTo(ba
4LandsOf(b
5otterySeconds
4Money
4Of(a
4PeriodDura~
:End@
4Readings(b
6ferralPacksClaimed
4Storage(b
5ub(bed
6pply
4ToExtraMinting
6Use$s
6ken
9@
9s
:(b
:Available
:Issued
6tal
5ransfer
<Item(lb
4UntilDate
5pTo(a
5ser(b
4_transfer
5vote_for_candidate_A
4dWinPoolForSecondStage
?ThirdStage
<ToTeam
>WinSystem
4zOne
5@
6wo
5e
6(a
8a
7b
8a
9a
:a
9e
8f
8hp
7f
7g
8f
6API(ac
7ccount(a
>b
?a
@aaaa
?bf
?f
@a
Aa
=AndAdd$(ba
=By@(ba
=Direct(bf
=For&(bf
@Owner(bf
=Of(b
=Partialy(ba
=Send(bf
=$(baa
>ransfers(b
=With$(ba
=s(bf
?g
@f
Af
7ddress
=(b
?a
?f
8min
;istra~&
7ll
9(f
9AccountInEmergency(f
9owance(b
7ndConfiscate(b
6=(ba
=s(b
>Of(b
7lock
;s
7ypassing(b
6ChangesToVesting(b
8eck(ba
7oin
8ntract(f
6Datas(b
9eOf(b
7eliver(baaaa
=MultiStandalone(ghhaa
?ti(gaaaa
8posit(ba
7ura~
6Enabled
8d@(a
9sAt
7xists(a
6ForOwner(aa
7rom(baaa
6Game(a
;if
7lobalTansfers
6Height
7ybridiza~sCount(a
6In(b
8dex(a
6List(b
7ottery(if
6Method(bf
7intUntil
:ingFor(a
7ulti(ghhh
;Accounts(gf
;pleAccounts(gG
8stCalculate(a
7yFunds(aa
6Of
8(aa
9b
9ea
:e
:i
8User(b
7racle
7ut(b
6Period
7rice
8ohibited
6QuorumPercent
6Record(ba
6SignatureChecker
7tatsSumHours(a
7upply
<(a
6TheMoment
7ime
:(aa
:Block(b
:Of(b
7o(bal
8ken
;(baa
<f
;;s
;s
<(a
>a
=b
>a
?a
>fa
<?
<OfOneUser(b
7ransfer
>@
?oken
>s
?Since(ac
?Until(a
Fc
6Until(bf
7pgrade
7serFunds(baa
6With@stamp(ba
6_contract
7pool(f
6d
7(b
7Accounts(b
7=Of(b
7List(b
7Moment
7$Of(b
7Value
7|s(a
6lvlAccount(bf
6r
7s(a
6s(b
5ing
8(f
8Agent(b
8=InfoOf(ba
?NumberOf(b
?Of(b
8Count(b
8Manager
8Percentage
;iod(b
8Status
3nzy&
3sh
2iends(b
7FingersRatePerMille
>|
7With(b
2om
4!(b
5mountBooks(b
4Block
4&Addr
4Ethers(a
4Hex(c
7Char(a
4Name(d
4OtherCurrencies(ab
4TLA(c
5ileId(k
5weiToFp(a
4Version
4WeiToFp(a
4addr(b
4s(a
3nt
5Window
;AdjustmentRatio
5end!
3st
5$s
5bite(b
3zedCount
5n
6(b
8a
6ATAccount(b
7ccount
=(b
?f
=CoinByHour(baa
C@(baa
AList(ba
=ForIndex(a
=ICO
=Profit
C(b
=Send(b
=$s(b
=s(a
?b
7ddress(b
7mount(b
7nnually
6=
=(b
=Count
=Of(b
=s(a
?ba
6Cell(ba
:Count(b
6DaysForAdvisor
=Bounty
=EarlyInvestor
=ICO
=Partner
>reICO
:forTestExchange
7eposits(b
6End(b
6Forever
7unds(b
=a
;Of(b
6Infos(b
6List(b
6MinDeposit
6Num(b
6Of
8(b
6Pause@
7ool
8r~s(a
7rofitDate
@(b
6Rate
7ecords(a
=Count
8serveTeamRecipient
A|
6StatusOf(b
<es(b
7upply
6@(b
:Of(b
:stamp(b
7oken
;(ac
<ba
;;(bae
;s
<(ba
<Received(b
<Supply
7ransfer(baaf
>From(bbaaf
6Vaults
6|2y
<4y
6_team(b
6s(b
9aa
7Detail(b
7Total(b
2t$
1share
2t^
6vateSalePor~Denominator
ENumerator
3Sold
3TotalSupply
3Unit^Denominator
<Numerator
1ttIssued
1udd$
2el
4&
2lfill(<ContentUtils.ContentMapping storage>dbb
7Bounty(ac
7Deliverable(d
7ed(db
3lDataOf(a
4^
4SupplyUnlocked
4$|
5ransfer(b
4UnlockAngelsAccounts(g
4WhiteList(b
4fillAdvisors
8Founder
8Team!
8ed(b
4name
2nc~Calling(b
<s(a
>d
8Eight
8Five
<(aaaa
9our
<(aaaa
8Name
8One
;(aaaa
8Seven
9ix
;(aaaa
8Three
=(aaaa
9wo
;(aaaa
3d
4(a
5b
6a
6b
7aaa
6f
5dca
7ba
5eee
4Account
;s(a
5ddress
6visor
5nswerBounty(d
4BTC(ba
5alance
;(b
;Of(bb
5ounty
:AndTeam
5urn(ba
4Capital
5hecking
5ontract
<(a
<ForRefund
5urrentRound(e
4Dao
7For(aa
5eposit
;!
5igitalMarket
4Escrow(baaa
4Failed
5orAirdrop
7Bounty
7Sale
7Team
6unda~
9er
4GooResearch(a
4ICO
7(ae
8b
5co
4Loan
6ck@(b
8ed(b
4Management!
:rs(b
7ually(ba
5inting(ba
;Agent
4On&
5wner|
4Pos
6t
5reIco
7Sale
5uppets
4Raised
:DuringPublicSale
9r
8ing
5eceiver
7ipient
6pository
6servCompany
:e
6verse(b
4ShareLastRound(e
9ParticipantsTotal$sCurrentRound(e
PLastRound(e
9RemainLastRound(e
5torageVault
@Addr
5ucceeded
4Team
8Company
8Instant
5oken
9s
6talSupply
5ransferIn(bba
<Out(bba
<Within(bba
<red
5ype
4Used(b
4ValueCount
9Publish(aaa
9s
:(a
5esting(ba
4|
:1
:2
5ithdraw(ba
<al(a
4_color(bbaaa
5owner
4aria
8BonusFund!
8Cap
8Pool!
8Share
9takesFrozen
8$!
=Buy!
4cru$
7VaultLock@
4ed
6(b
7ne
6?
<(b
6Proxy
5r
6(b
6=(b
=_
6Count
6EthAmt(b
6Smart$
7tructs(b
6Withdraw
6s(a
8b
7Claimed
7Property(b
4ing
7Account
9tive
8ddress
7Cap
:Reached
7Dura~InHours
7Enabled
9d
:Block
:@
>stamp
:Unix@stamp
:sAt
8thGoal
8xchangeRate
7Goal
;Current
;HardCap
;In$(a
;Reached
;USD
7Limit
8ock
9wcapReached
7Max
:?(b
:CapInWei
=USD
:InEth
<Wei
:imumTargetInUsd
FWei
8inCapInWei
:InEth
<Wei
:imumTargetInUsd
FWei
7Paused
8oCEnd@
8rocessed
7Raised
9tePredic~BingoOf(b
FonusClaimWindow
JPoolInIBC
EOf(b
8ecipient
9mainingAvailableInEth
9serve
7Start
<At
<Block
<@
@stamp
<Unix@stamp
:te
;us
9opBlock
7Threshold
8okens
7UnlockFrac~Invert
=Period
=@
7|
=!
7_ended
7s
8(a
4raiseType
9_max
9r!
:CallData
8ing
4s
5(a
6b
5AreAvailable
5ByBidder(b
5Claimed
6ombinedValue
5Expire(b
5FromPreSale
5Keeper
5Of(a
8b
6ut
5Raised
;Finalized
;InWei
5ToCommunity(a
7MSF(a
7kensHaveBeenMinted
6ransfered
7easury
5Vault
5|
6ithdrawnByOwners
5_address
6claimed
4transfer
3nel
2se
4d
3ionChibis(aaacce
2tDevAddr
3rMiner
3ure
6DevLock
9elopment
AFund!
APool!
6Expans~
@Map(b
6Funding=
=|!
6Holder
6Owner
6Round$sRelease
;|
6SaleAlloca~
:Vault
:|
6$s
6_round_coins
=percentage
3xMiner
2zexAccount
1wdToENS(j
5Resolver(j
1x
0g(b
1ID_
1SetAlive(f
4Running(f
2torage(d
1alleryFive
8our
7One
7Seven
8ix
7Three
8wo
2mble
6r1
72
7event(ba
7list(a
7s
8(a
5ingPartiesInfo(a
3e
4(a
5f
4Active
5ddress
4=Of(b
6rs(a
5eginPlayNo
9@
4CloneFee
5ontext(a
6st
6unt
9Of(b
4Developer
=Supply
5ura~
4Earnings
5dit(alee
5ncryptedText
6dBlock
7PlayNo
7@
7s
5xists(d
4Finished(aaaa
<@
4Genera~
6t$BankrollList
5ifIsOver
7tInfoList(b
8Line@
8Max?
8Once?
8Sent?
8UserDay@s
<Total@s
4Host!
4ID
6s_(b
5d
6(b
6Cntr
6Game(a
6s(da
5nProgress(<Game>
6dex
9ToApproved(a
;Owner(a
6fo
8(a
5sCalculated(a
6Over
:(a
6Sundown
5temIndexToApproved(a
?Owner(a
4Ledger(b
5istOf
:(b
5ogic
4ManagerPrimary
;Secondary
6xBet?
5inBet?
7ing(ba
:$(k
?Cap
?Start@
4Name
8s_(b
5br
5ext
5um
7ber
4Op
6en
8ed
6ponent
5ver
8ByUser
5wner
4Paused
5layed
:Status
9rNumber
:s(bb
5rice
4Randon1
:2
5efund(a
6quest$s(ba
6seeds(a
7ult
:(aa
=afaa
<b
:sLogged
5unning
4Settings
<(a
>a
5houldRestart
5tart
9(a
9Block
9@
9ed
;(caaa
;At
=Block
:r
;DividendPercentage
7te
9(a
9s(a
8s
6opped
4Tick(a
6me
8Out
5oWinner(a
6ken
9Alloca~(b
:mount(b
5ransferFlagOf(bb
5ype
4Value
4WhiteListOf(b
4_alloca~
5paused
5token
5withdraw
4idsOf(ba
4rs
5un
4s
5(a
6b
6i
5ByDayOfYear(aa
7Player(ba
5Completed(a
7unter
5Fund
5Of(b
5Played
;(a
5WithoutQuorum(a
5_(a
2n$NoLongerForSale(a
8OfferedForSale(a
3a
4=
3gBadges(a
4Hits(a
2p
3InPrimaryCrowdsaleAndSecondaryCrowdsale
3s(a
2ranteSystemDepositInAllFunds
FOneFund
3bageCollect
3deners(a
6s(a
2s
34$
3After_
4mount
5t
3Before_
4udget
3Epoch
3Fee
4orCLI
8OUD
6DCN
6FLKD
6GR
6IAD
6KWH
6Oraclize
>dQuery
6PBTT
6XaurDataUpdateAtBlock
3In$s
3Limit
8DepositRelay
8InWei
8WithdrawConfirm
3Oraclize
3Payback
4erTx(s
4rc
5ice
8ForCompensa~AtHomeSide
8Limit
=_
8Maximum
8Oraclize
3Refunds(da
5q
6uired
5serve
5wardPercent
3Utilizing(b
3_amount
4price_max
3price
2tFoundDeposit
4und
3eway
7Opened
3herAllOld=Of(g
6Details(3
6Old=Of(b
1ba
2t!
1cEnd@
3xchangeRate
2Start@
3upply
2ard(ab
2f
2mp(aa
2o(ab
2p(a
3a(a
3m(a
3n(a
2sc(a
3p(a
1ee
2m
3AttackConversion
3CriticalRateConversion
3DefenseConversion
3Fab
3HpConversion
3IndexToApproved(a
:Owner(a
3PerEther
6Miner
3SpeedConversion
3myMusicLock@
:Supply
3sOfOwner(b
4tones(a
2n
30Auc~Dura~
4Config(i
6unt
5reatedCount
9ionLimit
5utieCreatedCount
4Ending^
4Limit
4PresaleCount
;Limit
6ofit
4SaleCount
5tarting^
6ep
3!FromGTIN13date(cc
3BaseStats(a
3Code
3LevelExp
;Gain
3RNG&!
3@
4oExtraStats(aa
5Luck(aa
5Start^(a
3|
3aroDevMultisig
3ders(e
3eCore(aaa
4Kind
4Lab!
4Manager
4Science
4ralBounty
7Info
7Manager
7Rate
7SaleEndDate
;StartDate
7Terms
8okens
6te
8(a
:bc
:c
9ba
:ba
:c
:j
9cbbdaa
8Add!SchemaHash(bd
9ttestForDelega~SchemaHash(bbaddhd
8ContentID(c
=stForDelega~SchemaHash(bad
<ract(aa
8Deposit!
8Finished
:xtures
8Game(ddbaaaaaaaaaa
8Hash(bc
8Id(a
;c
9nitialCard(k
8Lockup$sDelega~SchemaHash(bad
9uckyNumbers(a
8MessageToSign(ba
8NUMERIC(a
9ame(qaa
8PASS1(b
<2(db
<3(d
9resaleHouse
Ds
:oof(cbbe
=Set(cbbbe
9seudoRand
B(d
8Rand
<omNumber(aa
9eferral!(b
:lease$sSchemaHash(bbad
:questAttesta~SchemaHash(bbbdhd
:serve
:vokeStakeForDelega~SchemaHash(aa
8Security$(cccf
9hortLink
9takeForDelega~SchemaHash(baddhda
8ThemedSpinners(aaa
9icketData(aee
9oken(ba
@cc
=s
>(ba
>All(gh
>ByList(gh
>ForPresaleAccounts(g
>Manually(ab
9rees(a
8UniquePets(e
8VoteForDelega~SchemaHash(kbdb
8Warrior(aaaa
9inMatrix(k
;Number
ATest(aaaaa
:thdrawalHash(cab
Ja
8_token_for(ba
8d(b
9Byte
=s
9Eve
9Gze
9$sSale
7ionSeasonController(a
@Dict(a
7or
9;(ba
5icCall(bj
>b
7Sender
7;(baj
5ousDona~
8Fee
4sMarket
5To$Id(a
5is
7!
>(b
7Block
<Count
<Number
7Caller!
8rea~
7ImportsComplete
7Root
7@
;stamp
8oken
7Virus
3ome(a
3xProperty(i
2rnerateVoting(aa
2samtGuthaben
2t
3(<!SetLib.!Set storage>a
<UintMap>b
4a
4b
5b
6c
5c
4c
4d
5bb
5c
31(a
40Ads(a
6nimals(k
5Characters(k
32(a
33(a
40Artworks(k
3A
4DR
4TMHoldersNumber
6TotalSupply
5itty(a
4bel
5ilities
<ForCollectibleId(a
4ccDetails(b
6essControl(bbe
9ory(a
>a
<ByIndex(ba
<Claims(l
<LockStatus(l
<Series(e
6ount(a
;b
;d
:Activity(b
;ddress(a
;llowance(b
:=(b
;lockedFunds(b
?s(b
:Cap(a
;hartDetailsByEntityId(b
;oords(b
<unt
:Data(b
@c
:FeeModifiers(b
:ID(b
;nfo
>(aa
?b
>rma~(a
<putSdcslength
;tems(ba
:Keys(a
:Level(b
;imit(b
<stLenght
;ockState(b
:Modifiers
:Nickname(b
;ote(b
:OutputSdcslength
:PendingValue(b
:Quantity
:ReferalsStats(b
?rer(b
:State(d
:Unlock@(b
:s
;(aa
;Number
6redita~Active(dd
6umulatedDistribu~Percentage
>ServiceFee
5t
6ion&(b
;unt(a
?fff
9HistoryItem(a
@Size
9Ids(fff
9^(c
9Status(a
9Type(d
7vator(b
8eBusinessesPerCity(a
FType(a
;yOrders(a
9Cards
;stleId(a
:ontract!(a
As
9Fish(aa
:lag(k
=Rate(k
9Games
9Message
9OrderCounts
9Players
:roposals
9SellOrders(a
:hareholdersArray
JLength
:kin(b
9Tasks
:ier
8ity(k
;AccountInfo(b
6orBillXdetail(baf
6ual
9Comple~Date(qbbaa
9Period
:rice
>OfCardOnBuyAuc~(a
FCraftAuc~(a
9$sPerEther
;tal$s
4d(aa
5IdByCat(aa
9User(ba
5Owner(a
5^(a
5Text(a
5Url(a
5d(d
6Bal
6ListSize
6OnComplete(k
8Needed(k
8Support(k
6ReserveSignatures
6$ApproveSignatures
;Data
?Tracking
;Nonce
;Parameters
;ResetSignatures
;Signatures
6i~al@(a
6r(c
7ForPrivilege(b
7ess
:(a
<a
;bc
;c
;d
<c
<d
;gff
;j
;q
:And=(b
=Share^OfFunds
N(b
:=(b
;oughtCount(kb
;yId(a
<Symbol(c
:Claims(be
;ount
;reatorById(d
:Descrip~(b
:Exist(b
:ForAccount(c
=Query(d
=Username(d
;romData(j
>List(a
>San(c
?ig(dedd
>Username(d
:Gains(b
:Index(a
:LastUpdate(b
;ength
<vel
;ockedLength(b
<st(b
:Nickname(b
:One(b
:Size
;tatus(b
:$
;wo(b
:Value(c
:es
<Count
5jacent(<LinkedListLib.LinkedList storage>af
6ustedContribu~(b
5min
8(bd
8Comission
:ntract(ba
8Dashboard
8Fee
8Log(a
;N
8Name(b
8Status(b
8Variables
8s
5opters
5rByIndex(a
5s
6Count
;ByCat(a
=User(b
6Length
5v(aa
6anced;(da
Ed
6ertisementStorage!
6isersConsultants$s
8orStatus(b
4ffiliate(a
=b
<?(a
<Commision
>unt
<Info(b
<Level
<Rate(a
<Sender(d
BPos?(a
ECode(a
;ion(b
5terIcoPeriod(a
8;Locked$=s(bf
4gon(a
7Array(ll
7IdArray(b
5reedComple~Date(qbbaa
8ment
<ById(a
<Count
<SetById(a
?Count
<sCount
4irDrop$s
:edToday
6drop
:?(b
;tSnapshot(b
:Status(b
4lerters
5gosByCreator(b
5l
6ActiveAuc~s
<Sales
7dIdsByCat(a
=User(b
8dress
=es
8min
7greements(a
7lgos
7nimalsBy!(b
7rtworks
>ByOwner
7ssembly(b
7uc~s
8ditors
6=
9ler
7idsByAdslot(a
>unit(a
7locksByOwner(b
7onus(aa
8unties
7uyers
6Card!esCountOfOwner(b
COfOwner(b
C^OfOwner(b
:By!(b
:Datas
:s!
<ttack
;ClaimContender
@ed
;Defence
;ForClaim
;Lowest^
;Modifier
CPrimaryVal
CSecondaryVal
;Type
7ellIds
;nfo
>From_To(aa
7oins
8mmentIdsByAd(a
9panies
7rySolObjects
6DSP
7apps
7epositors(a
8tails(b
7ividends
6Elements
7ntityIds
6FiatTransac~sCount
7unding
6Game?
:Statistic
:s
;(faa
;Count
7iftTemplateIds
7oldTransac~sCount
6Head
7ousing
6Identifiers
7nvestments
<ors
6Jingles(b
=OnSale
6LeftHand
:Leg
7oans
6Matches(a
=ForRoundId(a
9ingAnimals
7oneyOut
7y$sForAllEtherOn&
6NumberOfBets
6OfferingProposals(b
7wners
<Claim^OfCard(b
<OfCard(b
6Package
8rticipants
7elvic
7ixels
7lots
7olicies
7roductIds
=s
7ublishers
6Ques~!es
6Records
8visionBlockNumbers(r
7ightHand
;Leg
6SSP
7aleAnimals
:sBy!(b
8mplesForOwner(b
7cripts(a
7hareholdersOfArtwork(a
8ops
7igners(a
=Count
9s
7ponsors
7taff
9r(a
6TeamsIds
8llers
8mplateProposals(b
7heFunds
7ickets
8mes
7okenIds
;s
<(b
8mbs
8talPrize
7ransac~Ids
DByEntityId(b
6Users
;(f
6Voters
6WeaponData(a
7orkers
6ocated(b
:ions
7w?(b
8ance(bb
?b
8ed?(b
@ByTeam
@ToContribute(b
:For;$s(b
:RangeOfChoices
:Step?
:@(d
;oMine(b
4mbassador(b
5ount
9(a
;b
:b
;a
:d
:j
9Accredited(b
:ttempted(b
9Bonus(a
@a
;unus(a
:yCoupon(d
<urrency(a
;$(dcb
9Contributed(b
<verted
9Fida(a
:orCharger(a
=urrentStage(a
9Left
9OfEtherSell(a
;Gene(a
;LinkerBuy(a
;Titties
<okens(aa
;Unlocked$s(b
:rdersForDay(a
9Raised
:egistered
9SoldAfterPowerDay
9ToUpdate(e
:ransferred
9WithBonus(a
9ofTotalParticipants
4ndDel(d
5gel(l
8ByIndex(ba
8CardSeries(e
9laims(l
8InfoByTile(ke
8LockStatus(l
5imal(i
9ById(a
=Visibility(a
9IdAgainst!(b
;sWithPendingCostume
9s(e
7e(a
8card(a
5nualFee
5swer
5tsSinceLastCollect(b
5y!$=(b
4piById(a
:WithoutDynamics(a
8Name(c
6Id(c
5p(b
8a
6ByIndex(a
8lawBytes32(d
;Uint256(d
6Data(b
6Id
8(c
6Nickname
6artment(a
6licantsLength
:~!
?sset!ByName(d
>EntityState(d
>State
>s(bdb
6roba~(ab
8valCount
9eRecord(a
:d(a
;!(a
BesOfList(g
;Buyer(bb
@ForIndex(ba
@MappingCount(b
;Proposals
>xies
?ys
;$Count
<ransfer(a
:rs
6sCount(b
4qua$AudCents^
4rbInfo(a
5eaIndex(c
7Owner(c
7^(eeee
5kData(a
5myBattles(a
7FullData(a
7Owner(a
7SoldiersCount(a
5rayInfoForDepositCount
8Length
5t(c
6WorkChangeFee(a
6s
6work(a
;i
:Group
:Info(a
4s!(d
<OrZero(d
5kByUserID(i
6sCount
5sData(a
6Total
6embly(a
7sByOwner(b
7t(a
9c
8!ByName(d
9ttachment(a
8=
:seInfo
8CollectedOreBallances(a
MArray(a
:unt
8Details(a
?URI(a
8ID
:ForTypeSequenceID(aa
:Hash
9dCargo(i
?Array(i
;reator(a
:ItemType(a
:Owner(a
?AndOIndex(a
?Index(a
:TripCompleted@(a
>Start@(a
;ypeSequenceId(a
8Length
8RawMeta(a
8$(a
=ByIndex(a
8s
9Owners(a
9Value
6ignedSupply
5troIdxsByPage(aae
9nfo(a
<ByIdx(ae
8PoolLength(e
8sLength
4theniansOnTheBattlefield(b
6lete(a
5tack(a
9ForCost(i
9Ranking
6o$s?PerWei(a
IInternal(a
=BoughtInICO
=LeftForICO
=ToBeFounder
6ribute(<AttributeStore.Data storage>dc
<s(b
4uc~(a
;ba
;l
:Array(ll
:ByAuc~Id(l
:Data
>(a
;etails(a
:End
=(a
:IdArray(ll
;ndex(bb
<fo(a
?t
:Manager!
:^(a
:Seller(a
;tart(bb
?Bid
?edAt(a
:Total
:s
;(b
<ii
;ById(w
;Count
5dCentWei^
6itOutcome(bd
8or(b
:s(a
5gur
5thorisa~Status(b
:ty(a
<Index(b
:zed!es
=Owners
<r(a
6orPicture(d
4vaIco?
6ilability(b
:le
<?
B(<address[21]>Raedd
L8]>Raedd
Cc
<=
=lance
<CoinsForCurrentStage
<EtherCommissions
<Fees
=undsForTheTeam
<Ids
<Reward(b
<Supply
<TicketCount
=okens
BToWithdraw
<Vesting?(b
=olume(j
<WithdrawInvestmentsForBeneficiary
6tar(a
:b
:d
9Info(a
5erage$^(b
5lShares(f
4ward(a
8@
8s(a
4xie(a
4yantDroitEconomique_Compte_1
P0
O2
O3
O4
O5
O6
O7
O8
O9
3B
4BFarm(e
9!AndBallotId(bda
9ID(s
5LibVersion
4CDTRateForCurrentRound
4FEX(b
4NT=(b
4OPCount
4PCount
4abyGen(kk
7Makin^(a
8ommas(a
5ck
7(a
72
7BNB
7Ether
<For(b
7LendingItem(l
7$(a
=b
>ba
7end
:|
8rStatus(b
5d!es
5g(a
6Count
6Details(a
5l(db
6anace(db
8ce
:(a
;b
<b
;d
:Addr(a
;ndHolderByIndex(<DRCTLibrary.$Storage storage>ab
Kab
;tSnapshot(b
:ByAccount(c
=ddress(b
>ress(b
<Index(ab
:Cell(b
;ontract
:Eth
=&
:ForUser(d
:Ico
;nEth(b
<Play
:Limit(b
:Modifica~Rounds(b
:Of(b
<&InSzabo
<Dist(d
<Sender
:PercentageLimit
;remiumsPaid(b
:Released
:Size
:Team(b
;oMint(b
<ken
?&
:_in_token
:s(bg
<gg
;Length
;Of!(b
6lotDetails(abb
9Index(bd
9LogN(b
9OptNumber
<ions
9sNum(b
5ncor&!
6k
7ermasterReq
7roll
5rrierNum(k
5se
7?(a
7LockPercent
7^
7Quick(d
7Rate
7Stats(e
7$
8ypeStats(a
7Url
7s
6icBallotsPer30Days
8Cents^Per30Days
8ExtraBallotFeeWei
8Income
8ObjInfo(l
?WithBp(l
8Rate(bf
5tch(ba
8Info(a
8Number(b
8Start@sLength
8;(b
6lordReq
6tleAttackerLog(l
9CardInfo(aaa
=List(b
=sInfo(a
:ooldown(l
9DataLog(l
:etails(a
9Fee
9Kuns(a
9TeamSize
9board(k
9sCount
4b!(b
4eat(a
6uty(a
5neficial!
<ry
>ById(ba
@@(ba
>Cash
B(b
Cf
>Develop
>Finance
>Manage
@rket
5st(<SaleListLib.SaleList storage>
7Angel
7Bid(a
:der(a
7Offer(bb
8rderId(eba
7Sale(d
5t
6(a
7ba
9a
7d
7ea
6?(e
<AtLayer(k
7rr
7t(ba
6Count
6Divisor(a
6IdAtRound(aa
8s(a
7nfo
:(a
6Key(a
6MutableData
6Num
6Pool(aa
6Record(a
8sult
<(ddda
6SizeAtRound(a
6Title
6Value(aaa
<de
>e
;ByGamble(<Gamble>e
HeInfo>e
Oe
6WaitEndEther
6s
7(aa
7Block
8yCategory(d
7EvenAndODD(a
7From!(b
7Length
8ocked
7Mas(i
7Nums(ba
7On@stamp(a
7Processed
7State
6terBettingInfo(b
D2(b
9NumOfWinnings(b
9Offer(a
:rderId(d
9s
7ing(a
<b
:Extra(a
:^
:Stastics
=tus
4id(a
7b
8aa
7d
6ByProducerAndDay(bi
8SiteIndex(ea
6Count
;By$(b
;ForSketchesWithHolder(b
6Data(a
7etails(b
6Fee(a
6Hash(aabaa
6ID(bdaaaa
7dList
8s
9By$(b
7ndex(bd
8fo(i
6^(a
6Reports(a
6dingInfo(b
?kb
6sByAdslot(aa
;unit(aa
7Count
7Num(b
<a
5ll(aa
5ndAccount!(c
8ddressAccount(b
7ing!(be
5rthCut(a
8@(a
5tso!
4lackListStatus(b
8flag(ab
8list(b
5obStore(X
6ck
8(a
:a
8Comission(a
8Data(a
8Hash
<(a
=m
<OrZero(a
9eader(m
8Info(ee
8Length
9ist
8Number
>(re
>M1
8Of(b
8Pointer
9rice(a
8Result(a
8@
<stamp
9oHashForResults(a
8Value
==
8chainHead
8s(aa
9ByOwner(aab
@Desc(aab
9Desc(aa
9LeftInCurrentKick
9Remaining
9TillMattew
Ahew
:oNextRound
9UntilNextRound
>Reset(<Limits.Window storage>b
>Start
9quareFee
4oard=(a
9yHash(d
8Member(b
8RowDetails(ae
8SingleSpaceDetails(aee
9tatus(a
8Update@(a
5mb(e
5nd=
>(b
7Multiplier(aa
6us
8(a
:a
:b
9b
:aa
8?(a
?baai
8=(aa
?ByType(aaA
9y!AndIndex(ba
:Date
>(aa
:ETH(a
:@
>(a
8Coefficient
:unt
8DropsOf(b
8Egg(l
8List
8MultipierInPercents(a
>lierAt(a
8Now(ba
8Percent(a
Aa
@b
?age
B(a
9ool
<Total
8Rate(a
8StakesPermanently(b
8Tier(e
<Count
9okens(a
?e
8UnlockAt
9sersCount
8Value
8es
:(a
;b
:?Available(da
8two(a
5ok
7(a
8d<BookType>
7Count
7Info
7Length
7ing(ba
;caa
:Count(b
6l(c
8d
9d
7eanMapCount(c
=Value(cb
:Value(c
6stFromTile(bbba
8edProposalsCount(b
9r?(a
:Data(a
;ura~(a
:^(a
:RaiseValue(a
:Strength(a
:Type(a
5rrower(a
9ingItem(a
@ByObjId(l
5t
6(a
6BillingIndex(aa
6Stats(aa
5ughtTicketCount
:okens
?(bf
6ndingBox(a
7sBy?(aa
7tiesByCreator(b
=Participant(b
8y
9(a
9!
:mount(b
:rbiter(a
9=
9Data(a
9$(a
>s
:ransfers(a
5xCount(k
6^(aa
6es(b
4racket(b
:Data
>Finals
>MiddleTeamIds(e
:Score(u
Aul
6ggerAtIndex(a
6nch(a
7d(a
9b
8Data(b
8s
5eed(i
8ingFee(tt
5oker
9(b
9!(aa
9Incoming(b
;fo(a
4tcForkCoins
6Rate
4udget
9(b
9OfCampaign(d
5ilding
;(a
5lkBonus(a
6lsmasterReq
5ndinha
6ny(i
5rn!es
7Count
7Delegates
7Line
7^
7ingMans
6ritoData(a
5siness(a
5tton^
5y
6(ab
6?(bba
7rray(b
6Back^(a
6Cost(a
8unt(b
6Demand(a
6LandInfo(ba
6Order^s
6^
;(a
<b
6Rate
9io
7eturn(a
6er
8(a
8!(kk
?Payment(ba
8=sOfCurrentAuc~s(ggb
8Contribu~(b
8FullInfo(b
8InfoAt(a
8Number
8Signature(c
8byaddress(b
8fee
8s
9Count
9List
4yAlias(c
5Owner(b
<a
5lawBytes32(d
8Uint256(d
8sCashBackVoteRejectedDura~
9MilestoneMaxPostponing
CinPostponing
;n@InTheFutureForMeetingCrea~
9ProjectDevelopmentStart
<posalVotingDura~
5teFromBytes14(<bytes14>a
7s(d
832
:(a
;d
<d
:Value(c
8FromNumbers(<uint8[3]>
8LE(jaa
8Name(c
8Value(c
3C
4A(b
4CH_edit_1
=0
=1
=2
=3
=4
=5
=6
=7
=8
=9
<2
=0
=1
=2
=3
=4
=5
=6
=7
=8
=9
<3
=0
=1
=2
=3
=4
<4
<5
<6
<7
<8
<9
4EO
5T4ByAddr(b
66ByAddr(b
4FO
4Lottery
4ON
4P(b
5Fee
4RYPTON_CUT
4abCoins?
5cheClassSize(i
5lFactor(i
6c$
6lABISignature(Od
DPd
Dd
7BaseGas^(Od
DPd
Dd
7CalledAtBlock(Od
EPd
Ed
8ontract!(Od
GPd
Gd
7Data(Od
<Pd
<d
;Hash(Od
@Pd
@d
7Fee(Od
;Pd
;d
:Scalar(aa
7Gas^(Od
@Pd
@d
:Used(Od"

end Listing
end EvmFlow
