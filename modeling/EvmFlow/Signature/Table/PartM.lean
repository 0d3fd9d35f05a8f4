/-!
# Known signatures, part M
-/

namespace EvmFlow
namespace Listing

/-- Known signatures from `returnFundsFor` to `setMEAAttributes`. -/
def partM : String :=
"0returnFundsFor(b
>All
>Multiple(g
>Users(g
6GanaBeforeSale(b
7ranted$(a
6Hash(vL
<z
:Long(bJ
7older(a
8st(a
:Cut(a
8wMuchMoreETHNeeded(a
6IcoInvestments(a
9$s(ba
7dImage(i
7nterest(a
8vestment
@Recursive(a
@s(a
ATo(b
7sParent!(b
6Kitty(a
6LastBuyerIndex
7ender(a
7oan(a
:Length(a
:Status(a
8ng!(dex
:Coupon?(Fda
:$?(Fd
Ha
6MasterNodes(ba
8xGoal(a
7ember(b
8ssage(a
7inGoal(a
7oney
;(b
7yEth=(b
8Money(a
6Notes(a
6OfIncome(ba
7therCrypto(b
Cc
7wnership
?Of$
6PaidBackBlock(a
8yees
7ercentage
9iodExpired
7reSale$s(ba
7tSafeLarge
<Medium
<Small
<XLarge
7urchase(b
6Random(<Campaign>
8te
7eclaimed(ab
8ferral(b
8gDate(b
8mainingEther
?$s
8questCancel(a
6StartBlock(a
;@(a
9tus(a
<Ico(b
<Pre(b
7ubscrip~Desposit(a
8spendedPayments(b
6Temp$s(b
7ickets(a
7oBuyersContinue
8Owner
=(ba
8Sender
8ken
;(a
<ba
;!(a
<mount(vazex
;=(bd
CvLex
Dd
Dzex
;DepositState(bd
HvLex
Izex
;Ownership
;s
<(a
=ba
<ForDay(aa
=romTeam!(a
<InPool(gh
<To(b
>Airdropper(b
>Owner(c
>|
8talDividend
6Unsold
<Safe
@Large
@Medium
@Small
@XLarge
<$s(b
7ser=(bvLex
Dzex
Bvd
:GrowthPool$s(ba
6Value
;(a
7esting
=Schedule
7olAdjuster(a
6|
<!
7ebsiteData
8i
6_funds
7owner
7pause
6able$s(b
7nte(b
6edCWC(ba
8To(b
8Wei(ba
7th(d
6moneycreator(ea
Dn
6s
2value(aa
3eal
6(a<uint8[5]>d
8a
8ed
7bd
7d
8ad
8c
6Bet(aa
<fd
7racket(uq
6Cap(aa
7eiling(aaafd
7onsensus(bd
7urve(aaafd
6Move(aec
=ec
7ulti(hhhGo
6Number(b
6Paper(c
7eriodActive(a
7urchaseOrder(daadb
6Rock(c
6Scissors(c
7eckey(ad
=d
6Vote(aaa
<eddid
:s(hhh
6Winner
6_end_time
7test_data(Bm
@_groups_block_size
6edCeilings
9urves
4ive$(ba
4nue
7=
7Frac~
7ShareCurrency(b
<Distribu~(b
<IdentifierList(b
<List(b
<Owner!
4ralSupply
5se
7(b
9a
8d
7Bytes
7FiatPurchase(a
7Purchase(b
7Split(e<bytes6>ei
<$sBeforeDistribu~(a
7Whitelist(b
5tAML(b
7uc~(a
6Bet(a
6CrossFork(c
6FeeCalculatedFlag(f
7unds
;(bba
6Game(b
6Me
6Noncsalloca~(b
6Reserva~(b
6SuspendedPayment
6$s(b
<ByKYC(b
7ransfer(ba
3iewAudit(a
6er
4seNumAvailable(aa
5ion
8s
9(a
4ve(a
6Fee
3ocable
9s(b
4ke
6(<Holder>
7a
7b
8a
8b
7c
7d
8bf
7j
6Access(b
>e
<Deploy(b
?osit(b
<Mint(b
7ddress
8min(b
;Status(b
7ll$Grants(b
9Vulnerable
9oca~(b
Be
7ndPublish(bddb
9Reclaim
9SetNewMember(edb
7sset(da
7ttribute(bcj
Adj
?Signed(beddcj
Jdj
7uthentica~(b
:ority(ba
6=(bb
7onusCreditOf(ba
8unty$s(ba
7urnDelegate(b
6Cert(djdfa
:ificate(d
7onfirm(Td
=a~(a
Cba
Cd
9sent(c
9tract
6Delegate(bcb
@db
>Signed(beddcb
Idb
6EditorRights(b
7xchanger(b
6Grant(a
<b
=a
6Initiator(b
6KYC(b
6LockByIndex(ba
6ManagerPermission(bc
7embership(e
7intDelegate(b
:er(b
:ingManager(b
7ultiplePermissions(bo
6Offer(b
7perator(b
7racle(ba
7wners(b
<hip(b
6Participa~(b
7ermission(bd
7oolRole(b
7resale(be
6Request
6Schedule(bb
7elf
7ignature(j
?PreSigned(jja
7tack(daaaaa
7ubmission(bb
6Tickets(bf
7okenGrant(ba
Bba
;@lock(ba
;s(ba
7ransac~(a
;ferManager(b
6Unicorn(a
7serRole(dcb
:s(g
6Validator(b
7erifica~(b
8sted
:ing(b
?b
?c
7ote
6d
7(b
7On(b
4te(<Holder>
2w
3ard
6(a
8a
7b
8a
9ac
9fc
8baaa
7l
7wg
6AD
7ccount
8tivityEnd
7ddress
=esSet
8justmentPeriod
7irdrop(ba
=Many(gh
7mount
7ngel
7t@OfWithdraw(b
7uditor(aba
7vailableCurrentDistribu~
6=
=s(b
7eneficiary(ba
7ounty(ba
<Many(gh
6Checkpoint
7omment(b
8ntributors(gh
6Days
:Left
7enominator
7istributedUnits
?ionEnd
Eed
BStart
Ged
6Era
6ForDrawing
9Work(bbaf
8undersAndPartners
6Genera~Complete
6Holders(a
6Koth
6Levels(a
7ottery(f
6Manager
9ual(ba
8thGeniuses(aa
7intOwner(ba
6Numerator
6Of(<ContentUtils.ContentMapping storage>d
7ne
6PXL(ba
7ay(ba
9ableDays
9edOf(b
7erBlockPer!
9Node
9cent
=age
@(a
@Decimals
Aivisor
7oints(b
8ol
:!
:Percentage
:Supply
:$s
:|
:_
7rivate
8omille
6Reduc~Rate
8tweet(b
7ound(a
6ScarcityFactor
7ent
:(a
7ources(a
7plitPercent
7tart@
6Three
7o(ba
8ken
;(b
=aa
;Locked(b
;s(ba
<Floor(bai
=orClient(ba
7wo
6Unicorn?
9tsRatePerYear
7ser(aba
;ba
:s(agh
6Value
6|
8sSent(b
7inner
6_contract
7list(gh
7total
6ed_refresh
6ing(b
8terval
6s
7(a
9b
8b
9a
8d
7Accounts(a
8lloca~
7Count
7Funds(ba
7Of(b
7Redeemed
7$Supply
<sVault
7|
8ithdrawalProposed
ARecipient
7_amount(a
8id(a
7length
7upply
3iew$
1f
2ind(CC
5Ptr(aaaa
1hi
2o
1ichDatabase(a
4$
4ardAddr
4est
7Player
7RoundId
4tokenIndexToApproved(a
@Owner(a
2ddle
3ers(a
2ght?
6ndRoles
5Lottery
5Name
5Pts
5Share^
?RateOfIncrease
5Votes
7ws
2ngBell
4Index
4hashFound(d
8Registry!
3keby
72
73
2sedUSD
3kcoins(a
4s(d
2tual(a
6Fee
6@Block(b
2vetzRegister(aaabb
8lease(a
1lc
3_bounty
4reserve
4team
1mExchangeAccount(b
2ax(nn
2in(nn
2ul(nn
1nBlock
2dExtra_
3Gap_
3Inc_
5it_
3Max_
3No
3ReduceThreshold_
3TmEth_(a
;a
2g
3!
3CallbackGas
3Id
2t$
8Vault
1obPantry(ba
9T(ba
3otAddr
5Coin
5IndexToApproved(a
5LiabilityLib
5Refund(b
5trading$
2ckOwners(ba
7ingHistory(b
4etAddFunds(aaa
7rrival@(a
6BlocksUntilAllowedToLaunch
6GetResourceValues(a
6IsLaunched(a
6Launch(a
6SetResource^(aaa
6@UntilMoon(a
7ravel@(a
@ByResource(aa
4s(a
2ger
2k
2leAdmin!
4Editor!
4List(ddb
4s
5(b
3l
4(a
6d
5e
4!
4Dice(a
:a
:b
4Five(beeeee
5our(beeee
4Lo
4One(be
4Room(ab
4System(ab
4Three(beee
5wo(bee
4Update(b
4WithSeed(d
4back
8&(ab
8;(bba
4outDividends(b
5verFeePeriod
AIfElapsed
8Percent
2omAvailable(cha
4ForBirth
4s(d
5Available(ch
3t
4!
5uthority
4Hash
4Node
4OfTrust
5wnerOf(a
;Child(ba
4UTXOMerkleTreeHash
4_domain
4s(b
5Match(bb
2ughSupply
3letteOwner
3nd
5(a
6d
50Bonus
6End@
6Start@
6Target
51
6Bonus
;Steps
6Cap
6End@
6InitialBonus
6Sold
7tart@
6Target
7okensRemaning
52
6Bonus
6Cap
6Sold
7tart@
6$sRemaning
53
6Bonus
6Cap
6Sold
7tart@
6$sRemaning
54
6Cap
6Sold
7tart@
6$sRemaning
55Start@
6$sRemaning
56Start@
6$sRemaning
5Active
5Bets(ka
6lockCount_
6onus(a
5Contribu~(a
7unt
:er
5Data(a
6eadline
6ura~
5End
8(a
8@
8s
6th
8Shares
6vent(<address[6]><bytes32[6]>
6xpired
5Factory
6ees(a
6ive@
6or(a
7urBlock
9@
6unds
5ICO
6D_
6d
6nfo(a
:ii
9s(e
7vestorInfoBy!(iib
CIndex(iii
5Keys
5Leader
7ngth
6ock?
5Max
6oneyDownNicely(a
DET(a
:UpToWholeFinney(a
IET(a
5Num
8ber
;_
5One?
8Limit
8Rate
6pen
5Parameters(a
6ot
6rice
7ofit(ba
5Resolved
8ults(a
7ward
5SetUp
6tart
:@
:ed@stamp
8ts(a
5Three?
:Block
:@
6ime
6okenLeft(a
6wo?
8Block
8Limit
8Rate
8@
5Up(a
5_
6(a
6after
6b_begin_date
6c_begin_date
7ount
6earnings(a
6m(a
5id
6n(b
7g
5num
5ownables(a
5s
6(a
6Count
5vars(a
3tingCodeMap(d
;s(a
2w(i
3Quiter
2yaltyInforma~&
7Tracking(b
1pow(nl
1spScience
3$
3lit(CC
9C
2rvToSale(a
2t
2ub(nn
1teamVaultAddr
2m_contract
1ubusBlack!
5Orange!
2le(aa
4s
5(b
5Proposal(aaaaaaaa
=s
>(a
2m
2n
3(a
4j<uint8[4]><uint8[2][4]>
4tab
31
32
3Crowdsale
3ICO
4co
4nOneDay
5it
3Jackpot
3Lottery
3Peer=
4lugin(bta
9Signed(bttnaedd
3Signed(tab
4uperPrivilegeLuckyDraw
4weepStake
3@
7AfterSoftCapReached
3ning
7Debt
7Round
7_id
7auc~s(a
2sh@ChallengeRewardsPercent
8FloorCount
3sianBounty
1vDeposit
9!
2t
1wGas
0s
12s
1CVars
1Id
1PerDate
4iodEndDate
7Sold$sLimit
1T2
2ks(ba
1URL
1_pwd
1aasApiProfit!
2carDoacoes
5ETH
5WEA
2ddleIndex^(a
6Quality(a
3iqHameed
2fe
4(d
4Add(aa
8mm
5pprove(baa
5ssetData(a
4Block
4CloseSale
5ontract
4Decrement(aa
6duct(aa
5iv(aa
8mm
5rain
4GiveBy&(ab
4HolderOf(a
4Increment(aa
6dexOfTaskId(a
4Kill
4LastDate
5ock(aa
4Mode
5ul(aa
8mm
7t(aa
4OwnerOf(a
4Pay(aabj
7back(ba
4Send(b
:a
8Card(ab
5ub(aa
8mm
7tract(aa
4ToAdd(aa
:mm
6Mul(aa
:mm
9tiply(aa
6Sell(a
7ub(aa
:mm
9tract(aa
6kenWithdrawal(a
CFromCrowdsale(bba
5ransfer(ba
?j
<By&(ab
Gbba
<Child(abba
Fj
Bbba
Ej
<From(bba
Dj
@WithData(bbaj
4Withdraw
<(a
=ba
<All
=mount
<al
>(a
?b
@a
>All
?mount(a
>FromCrowdsale(b
4_add(aa
5mul(aa
5sub(aa
5withdraw(a
4balance(a
4drawal(a
4guard
4r_ecrecover(dedd
4tyInvariantCheck(a
6|
3tInvestorAlloca~
2i
3Tap
4ub
3Vox
2lary(a
6Sent
3e
4(aa
5ba
6b
5c
41
5Started
42
5Started
7opped
43
4Ac~
8ve
:(a
5ddress
5gent
9(b
92
9s(b
5irdrop(ba
5llocated
5uc~
;&
;ERC20
4=
;Of(b
;s(b
5onus
4Cap
7Reached
7Usd
7acity
5losed
:@stamp
5omplete
<d
6ntract
<(b
9ibu~s
9oller
7versionRate
6unt
9(b
9er
;ThisPhase
4DateFinish
8Start
5eadline
6posit
5istributor!
5ue
6ra~
4Enabled
6d
7(a
71
72
73
74
7AtBlock
7Block
7Date
7@
;stamp
8okenCrea~Rate
7Unix@
7ed
5therRaised
:eceived
5xchangeRate1
@2
@3
@4
@5
4Fee
5inalize
<d
7ished
6rstEarlyBirdEndBlock
9PresaleEndBlock
4Goal
4HardCapEther
;Reached
8cap
6sEnded
7Finished
4InProgress
>B
6dex
6ited
5sActive
6Closed
6Finished
6Going
6On
6Running
4Limit
9ReachedForCurrentStage
4Manager!
6rket
5ilk
8(aa
6nShares
7imumWei
4NonEther(bac
6tEnd
4On
6going
5pen
8ed
5rNot
6derList(a
5ver
8In@
8ReachMaxETH
4Pause
9d
5eriod
5hase
5reiodChanged(a
6ice
9Wei
6oceedsEther(a
<Fiat(a
4Quantity
4Rate
8FirstDay
8SecondDay
7io
5evenue
5oundsSet
5unning
4SecondEarlyBirdEndBlock
7~Count(a
;Discounts(a
;Invest(a
;^(a
5hare
9sAvail
:Sold
5tage
9StartDates(a
7rt
9AtBlock
9Block
9Date
9Epoch
9FirstDayEnd
9SecondDayEnd
9@
=stamp
:okenCrea~Rate
9Unix@
9ed
7t(b
8e
8us
6op@stamp
8ped
5uccessful
>lyFinished
6pply
6spended
4Team!
5ime
8Over
5oken
9^
9Supply
9s
:(ba
:!
:Cents
:HaveBeenMinted
:PerUnit
:Vault
5ransfer(ba
5ype
4Unpause
4Valve(f
4|
:!
:s(a
6sSet
5eiCap
7LimitWithoutKYC
4_address
5pause
6eriod
5state
4able$s
4closing@
4d
5?
5Supply
4is(f
4opening@
5ver
4r
4s
5(a
6b
6q
7a
5Active
6ddress(b
6gent
6lloca~
5&
7unter
5Deadline
5Eth(b
5Pipe
5Rates(a
5Start
6upply
5$Holder
5Volume
5account
5deadline
5tate
3t
4Hash
4NHash
4oken(bb
3utaAndonio
3vageFinished
7Other$sFrom&(bba
Qba
7$s(ba
=From&(bba
7able!es(b
2meNum
4Odd
4Pooling
4Var
3ple&
6Registry
6Storage
6Types(i
3s(acc
2n
3CurrentTotal
3Max?
6Free
6Length
4inLength
6t(cc
3TTTCost
3_whitelist(b
3ctuary
3e
4It
3ityBounds
6Check
6Rates&
6_check
3s(a
3taClaus
5Fund|
2osao2
63
64
65
66
2tLimit
3Raised
3ellite
3oe&
5Locked
4shiMood
7Raised
7_bth_decimals
2ucePoolTotal
2ve(a
6cc
5baaacca
5c
4Block(c
4Cash(ba
5hickenOf(b
5ode(ac
4GenCode(ba
>c
4Hash(uc
4NewAnchor(d
5ick(c
4Order(ebaabaaaddd
4RN(a
5eading(cc
6sult(a
6venueShareDistribu~(ba
4ToCW
6ken(a
4d!es(b
5=
<$
5ChickenOf(b
5Types(a
3ings_goal
4or
2y
3(c
3GoodBye
3Hello
8(c
3OwnerHello(c
3Something(j
3something
1c(aaaaa
2alarEvents(d
4e
5dDividend=s(b
>CreditedTo(b
>Per$
6Remainder
8ward=Of(b
<CreditedTo(b
<Per$
4ing
7Factor
3m
4Flags(b
4Seal$!
5tamp$!
3n(bA
5gh
4Inputs(jaa
4Many(g<bytes1[]>
4Outputs(jaa
4nedBronzeCaps
7Caps
7DiamondCaps
7GoldCaps
7SilverCaps
3peHatch
2eneIndexToApproved(a
<Owner(a
2hedulable?
7e
8(aa
9ba
8Call
<(<GroveLib.Index storage>bbsjekaaaaaa
UvsjekR
=Obbsdaea
=Pbbsdaea
=a
>b
=b
>a
?a
?s
@aae
Ca
>s
?a
@a
Ae
Ba
@j
Aa
?da
Ae
Ba
?j
@a
Aa
Be
Ca
@e2
@keM
=j
=s
>a
?a
@e
Aa
>j
?a
@a
Aea
?keaaaaa
8NewDerivative$(ba
8PayoutOraclizeCall(ada
9riceUpdatesFixed(h
DRolling(aaa
8Rates(a
8Sale(aa
9tart(a
8Tier(aa
:melock(baa
9okens(a
8UnderwriteOraclizeCall(ad
:soldAlloca~
8dPayout
9TopUp
8r!
8s(a
:b
4ma
5es(b
3oolOrdering
2ientists
2l$
2o(aba
3re(d
5Bracket(b
5Down(b
5Groups(dddd
5Knockouts(ddX
5Of(b
5ThresholdParams(b
5Up(b
5s(b
4ingDura~
2rap(a
5Count
:er
5Percent
3een(a
6state
3ibes(b
7_hisory(a
>_length
4pt!es(a
6s(b
2s
3(b
2uttle
1dc(b
1eEnable;(f
2Ico!(b
2Signer(b
2TJackpotPersent(a
2al
4Burner(d
4ForChanges(a
4ManualMigra~
C(f
5inter(d
4@stamp
4date
4ed
6(ad
6Bids
:(bd
7y
5r
3rch(aa
6AndBid(aa
6BestRate(bba
7yName(c
8Owner(b
8Tag(d
6Inser~Point(aa
8vestor(b
6Node(b
6ProposalId(d
7ursesBy!(b
6Seed
7mallestInvestor
7tartIndex
8ring
6Whitelist(b
6_winner_bid_address(e
3sonTradabilityLocked(e
<le(e
6s(a
3t^
4sCount
5List(ba
2cPerBlock
3SaleSpenderTxDetails(a
3ToNextInterestPayout
9MiningInterval
3_addr
3ond
6Alloca~
6Bonus
;Ends
;Percent
;Rate
;SalesEnds
6CapEndingBlock
7hainHNw2
9ngeBlock
8eckpoint
@^
7rowdSaleDate
?EndDate
7urrent?
6DiscountCap
>^
7ueDate
6ExchangeRate
BPeriod
8tendedBonusSalesEnds
6HighestBid
@der
6Level^
7ock?
:@
8os
6Max?
6Owner
6PartOfTeam$sClaimed
8y
7eriod
<OfICO
7haseStart@
7lacePot
7reSaleDate
=EndDate
9saleEnd
=Start
8ice@
9vateLock@
Aed?
=Release@
6Rate
7efundPollDate
<RoundFinish@stamp
ARateDenominator
ENumerator
8lease
=Done
=@
8serveAlloca~
=@Lock
=|
8wardPeriodEndBlock
BPercent
7oundICODiscount
>End
>Start
>$sLimit
;Losers(a
;MayDiscount
>End
>Start
>$sLimit
;@
;Winners(a
6SaleDelivery(ba
7tage
;Cap
;Datetime
;EndsAt
;Fund(b
;Minted
?ing
BDate
;Raised
AInWei
<efund
=serve
;StartsAt
;$Rate
@sForSale
ASold
=talSupply
;|
9rt@
6TTax
:?
7arget
7eamWithdrawal
7hawDate
7ierDiscountUpperLimitEther
8me
:Line
:r
7okenCap
;ExchangeRate
6Unlock@
6Vest?
:StartsAt
6|
<Percent
8ve^
7eek
:Bonus
?InWeek
:End@
:MainICOBonusEstimate
:PreICOBonusEstimate
:$^
7inner@stamp
6XRChangeBlock
6YearEnd
6_bonus_amount
=dura~
7partner_address
7round_start
7whitelistSupplier
6aryGasLimit
9ICO(f
9LedgerCount(cb
?EntryForIndex(dba
:isting
9Operator
9SaleCut
9|
6roundprice
6sAfter
<Start
7BetweenMints
>Readings
7InBlock
9Day
7Live
7Passed(a
8erBlock
:Day
:Month
:Period
:Year
7Remaining
7@Locked
8oHold
7_left
7aleOpen
:closing@
:opening@
3ret
6BidCount
9s(b
6Hash
6Number
6Signer
6Taken(d
6aryGeneral
3sPerBlock
3~Available(a
7ForSale(a
7^(a
7s
8(a
4orOwnerCut
6ToOracleFee(a
9wnerCut(a
3ureApprove(ba
>da
6Mode
6Pay(a
6Send(b
6;(a
6Unapprove(b
@d
5itiesOf(b
7yAudit
8CheckURI
8DepositRegistry
8Guard
=LastCheckin
8Percent
8Reg(b
8$
=Offering(baa
=Registry
=Version
=sPercent
>|
8|
8_address
2eAllNumbers
6Players
3CurrentParticipants
3Eth^
3MyNumbers
3Raised
3ZombieColor(a
9Dna(a
9Role(a
9Star(a
3d
4(a
4?
5ndPresale$IssuedTotal
4&
5reatedCount
4End@
7ed
4FromCOO(i
5und
4Game
4Hash
4Investors
=Reserve
4Market(a
<a
4RoundEnd@
4SaleFinished
8$Left(b
5hare
5ingleSaleCount
5ourceA
:B
5tart@
9ed
5upply_
4TeamSaleCount(a
4WithGasLimit(a
4_addi~al_eth
@token(a
5base_token
5coins
:_vault1
@2
5eth
5multiplier
5traded_token
3k(<CLL>aaf
:mmf
4Approval
3le$
3n(b
4HereA
9(a
2gmentHash(cad
7Size
7s(dii
3undos
2hrRaised
2ize(ba
5ForWork(bbaf
5$s(ba
5d$s|
2lectFight2Death&
6OfferingProposal(e
7wner!ForTransac~Fee(b
6Template(e
6Winner
<(a
=c
=d
<20
<30
<50
6player
3f!
4=
4Destroy
;(b
;@
9uct
<(b
<Beneficiary
<Initiated
4Freeze(fa
4Hybridiza~(aa
A^
4Kill
4Lock
4Odds(b
4Register(d
<DIN
?WithResolver(b
?s(a
@WithResolver(ba
4Withdraw=
4_last_result
5ready@
5store
4commission(b
4destruct
<s
5rop_cap(b
4harvest(b
4lleryManager|
4potprofit(b
4voteamount(b
8s(b
3l
4(a
6a
7f
6b
7aab
7f
5ba
7a
8jbb
7c
6ba
5caa
5da
5e<bytes6>ii
6aa
5i
42(b
4All
7?(baba
?baba
=BuyEth(bbaa
Gba
=PayEth(bba
Fba
7Cookies
7DolAtOnce
7Outcomes(a
5nimal(i
6ts
5rtwork(i
5th(a
4BkgAtExchg(aa
5lock(aaa
9s(eeeea
5onds(a
;f
5uyer$s(a
4Card(aa
9baaaa
9ea
8s(aa
5ells
6nturion(aa
6rtainOrder(Yaaa
Aaaa
5hannel(ca
7racter(i
5ityForEther(ka
5limateCoinsAgainstEther(a
5oin(ba
9k
8s
9(a
9ToICO(a
6mission
=Units
7mission
7pleteSets(bba
5rystal(aa
;Demand(aacc
5ut
4DOTCH(a
5aiForEth(aa
5eadline1
<2
6ntacoinsAgainstEther(a
5ividendPercent
CCandy
CEth
5rugs
4Eggs
5nd@
5th(ba
7er
5xchangeRate
4Fci(a
8ba
5ee
7MilliPercent
5or(ba
7Bitcoin(ba
7OtherCoins(ba
5ucks
4Genes(aa
5olds
5rapes
6imReapersAgainstEther(a
4ICloudSecsAgainstEther(a
5deas
5ssuer$s(a
5tem(aa
;aa
4KWHAgainstEther(a
5ebabs
5issBTC(a
;WithCallback(aba
5nowledge
5un(a
4Limit(aa
4MNC(a
5anually(ba
6ximumPossible?Of$s
5inting!(aa
5orties
5ultiplier
5yStake
6$s
<(a
=e
<?(ea
<Daddy
<Elixir
<Stocks
4Nac(aba
5oDecimals(ba
6w
4Offer(aabd
7line(ba
5neStep(aab
5pen
5rder(Yaa
:a
;a
:baa
9=s(d
9Total
9s
:(a
;b
;d
4PackTo!(kkb
6tent(ka
6used
5oohs
6p(aa
8baa
6rftolio(aa
5rice
9(b
:e
9Eth
9InWei
9Of(a
<b
9_wie
4Quantity
4Rate
8(aaa
8ZeroQuantity(a
5ock(aa
4Scale
5eeds
5hip(iaaa
7tClones
5oul(ca
5paceship(aa
6ecial$sForPreSale(ba
EublicSale(ba
5take
7r(aa
8t@
7tus
6ores
5upply
4Tank(iaaa
5mr(b
5oBlackMarket(aa
6Consumer(baa
9tract
6ken
9(aa
:ba
<ab
>db
9Orders(l
9PerEther
9s
:(a
<aa
<baaabedd
;ba
;e
;ghhbdb
:ForBtc(cbaa
=Dash(cbaa
=Eth(ba
>ur(cbaa
=Ltc(cbaa
=Usd(cbaa
=Waves(cbaa
=Zec(cbaa
:Ico
=WithReferal(b
:PreIco
6talOf(b
5radeConfir
7nsferFee
5ypeOf(b
4Unicorn(aa
>a
7t(aa
4Value
5olumesCurrent(bb
;Next(bb
4Wei
5ine(a
5olk(a
6nder(aa
4Zone(aa
4_Exchg_Reg(aab
5id
5label(ba
5ppc
5spice_melange(a
5to&(a
7kens(a
4able
8$
8_tokens
4er
6=s(bbab
6Cancel(qbbak
7ut
6Database(ba
6GuaranteeEther
6IdOf(b
6List(b
6NumOpenDeals
B(b
6Of(a
6Proposals(ba
6Refund(a
8questCancel(qbbak
6_accept
7products(a
7total_products(b
6fee
9Divide
6s(a
8b
4floaksAgainstEther(a
4ing
7Accept(f
=ed
7Dict(l
9sable
7Enable(a
7List(a
7^
<InDayOf(b
4pause
5r0coinsAgainstEther(a
4sIngrWithoutDeple~(bac
7termediateGoodWithDeple~(baca
5$s
5ubscribers
4token(a
9s0
2manticVersion
2nc=
4EthRate
4HardCap
4Sold
4$
3d
4(<bytes20[]>
5b
6a
7a
8a
7j
6ba
7gh
6gh
5c
5g
6Ua
6h
7a
41Mil(b
42marketing(b
4AVR(ba
5dvisors=(ba
Dgh
<Supply$(b
<$s
B(ba
5fterIco(a
5irDrops(b
7drop(gf
=h
;s(gh
5llFunds
<(b
7LocalEthers(b
7$sToFounder(a
5mount(ba
;ga
5pproval(bab
5rena(ghl
5sGift(ba
5uto(b
5ward
9ToLastWinner
4BPESO$(ba
>ToMultiAddr(gh
5TCP$(ba
=ToMultiAddr(gh
5ack
8$s
6dge(ba
6lance
;(b
6tchCS(gh
5et(ba
5itcoin(ca
5onus(ba
9Egg(ba
9Many(gh
6ught$s(ba
7nty(ba
;d
:=(ba
Bgh
:Program=(ba
:Supply$(b
Ga
:$s
@(ba
5reakup(b
5ussinessByOwner(ba
5yCheque(bajaedd
4CharityETH(j
7tMessage(c
5oin(ba
9ghd
8sToBeneficiary
6llectedEther(b
6mmunity
=Supply$(ba
6ntractFundsTo!(ab
6unt
5reatorByOwner(ba
6owdsale=(ba
=$s(ba
CManually(ba
6yptedHand(d
4Deposit
6v$s
5iamond(bdcqa
7ry(bj
6vidend(ba
<s
=(a
>ba
=Ethers
7sToBankroll
4ERC20(bba
5TH(b
8dd
7from&
7toBoard(a
5arnings(b
5cosysSupply$(ba
5rc20(bgh
5th
7(ba
8g
9a
9h
7ForReward
7To(b
9!(ba
7er
9(ab
<b
:b
;a
:c
9Manually
A(ba
Da
9ToMultisig
;Owner
4FLC(bba
5eeTo|(bb
7s
5irst(ba
9Batch(gh
5lower(bdcqa
5orPreICO(ba
6unda~
9erAndTeam$(ba
Gs
;s
<=(gh
5rom(bba
9dba
8Own(ba
5und
8Home
<2
<Amt(a
8s
9(ab
:b
;a
;ea
9To(ba
;|
6tureExpans~=(ba
:Funding=(gh
:Supply$(ba
4GameGift(b
<2(ba
5ift(ab
9b
:a
;c
8Card(b
8s(g
4IBTC$(ba
=ToMultiAddr(gh
5COByOwner(ba
7Supply$(ba
7$s(ba
=Back(n
5fNotForked
5ncentive
6dividual?(gh
6itial$s(b
6vestmentsToOwner
:orIndex
4Jackpot(b
5igouByOwner(ba
4Krs(ba
4Limit$sToCompany(a
AFounder(aa
APartner(a
6st(b
5ove$(lccc
5udumToMany(gh
;Single(ga
4Mail(gadada
6rketByOwner(ba
5essage(bc
>ca
=jd
<c
=cc
<jjjj
;ToChannel(cc
5ileStone(baa
6nerByOwner(ba
7ingProfit(ga
5on(bbl
7ey
9(ba
9BeforeEnd(a
9Owner
5sg(bc
8cc
7Sndr(bb
5ultiSig(bajaaj
<$(babaaj
9ple!(gh
<Messages(gcca
4NegativeWhuffies(bc
5ow(a
7LastCount
4OnRequest
5racleData
6dered$s
6e(ba
5ther$s(ba
@eba
5wner
9=(ba
9Commission
9Shares(b
9s=(ba
:hip(ba
=AndCall(baj
=From(bba
4POS$s
5ayout(da
5ending
;?s(aab
6r
72
73
5ixelsToMarket(da
5latformSupply$(b
7yerBack(h
5oolMoney(a
6r~(ab
6sitiveWhuffies(bc
5reICO$s(ba
8co$s(ba
7SaleBonus(b
@Many(g
;ETH
7miumPack(a
7sale$s
6ivateSale$s(ba
7ze(a
:bac
:ghl
6ofit(ba
:s
;Reward(b
ABips
5urchase
4Reac~(b0c
6ceived$s(bba
6ferallFund=(ba
7und
:(b
6maining$s(b
:sToOwner
8ning=ToOwner(b
6serve=(ba
;$s
7idual?(a
6ward(aa
;ba
<ba
;h
:BlockCDN(ba
:$s
5obust(ba
=a
4Safe(ba
5econd(ba
:Batch(gh
5hipmentTo(ba
5ignal(d
5old$s(ba
5pecialTasterPackage(ba
5ubscrip~Bonus(b
6pply$s(ba
6rplus$s
4Taster(b
5eam=(ba
@gh
8Supply$(b
Ea
8$s(ba
6mp$s(baa
6st
6xt(cc
5hreshold(a
5o(ba
8l
7c
6!(ba
@a
=WithBonus(baa
A@(baa
7ggrega~(a
7ll(a
6Beneficiary
A&
6Charger(a
7ontract(baj
6Etheroll(aa
;toteDevelopment|
6Faucet(a
6Growth&
6Investor(ba
6Me
6OtherBlockchain1(cc
E2(ccb
7wner
;=(ba
6RST(b
6Stocks
6Team
:Eth&
:@
7icker
7oteLiquidator|
6Vesting&
6ken(ba
<c
;b
<a
<ba
:g
;a
9Aw(bba
9Reward(ba
9Team(ba
=Advisor(b
Fb
:oMultiAddr(gh
9s
:(a
<b
;b
<a
=ad
<ba
<gh
;ga
<h
=b
:BackTo|
:Manager(ba
=ually(ba
Ea
:SingleValue(bga
Fga
:To(ab
=ga
>h
<7(bbbbbbba
<!(ab
<Batch(hg
=ountyOwner
B|(b
=uyers
<Company
<Exchange(a
<Five(bbbbba
=ounders
<Hold
<Investor
Ds(ba
<Me(ba
<One(ba
?!(ba
=wner(a
<Partner
<Seven(bbbbbbba
A!es(bbbbbbba
<Two(bba
:Window(e
<thLock(baf
5ransac~(baj
6easury$s
4Unsold(ba
:PRETDE$sToTDE
:TDE$sToPlatform
;okenToRewardSupply
?sToTreasury(b
4VNET(ba
5alue(ba
9ToJackpot
5esting(a
4WebGift$(ba
5ingsRewardsOnce
7nings
<(gh
6thFreeze(baa
4_DividendTo!(ba
5all
8owed
5bounty_token(ba
4er
6Delegates(bb
6ETH
9(b
6HasRole(c
6IsAdmin
6MIT
9(b
6Stake
6ToProxy
=(b
6s(a
4frozen
4limit
4toA(a
6B(a
6C(a
6ken(babababababa
3t(b
6a
4Bonus
4First
4PreSale$s
4Second
4To(b
6ken
9s(b
:ToBountyOwner
<Company
<Founder
Cs
<Partner
4inel
4test
2o(a
2parate(ba
2q
3uence
2rHold@(ba
3aphims(b
4tioCoin
3chIndexBy!(b
3ies
6(a
6ASupply
6BSupply
7y!
?(b
8Name
<(d
6CSupply
7reated(d
6Factory
6Info(d
3veTx(Tbajfj
5r
6!
6CancelActiveGame(ba
6EndGame(iekamddabbj
?mddabbj
=Conflict(ieaamddabjbdd
Hkamddabjbdd
6ForceGameEnd(ba
Ceaamaa
6Port
:Update
6Seed(bd
:Hash
6;(bba
4iceAccount
8gent
8tIndex(a
7Burn(a
7ChangeOwner(b
8laimOwnership
8onfgMap(l
:troller
9unt
7Decrease=(ba
9ployCount(b
:osit
7Fallback(baja
8ee
:Withdraw
7GroupChange(be
<Get(b
7Increase=(ba
7Pause
9yment(a
?ba
>WithCharityPercentage(ba
8ercentage
8rovider
7Redirect(bba
7StatMap(bl
;ion
7$sBurn(b
8ransfer(ba
Aba
?Ownership(b
:sferFromDist(dba
>ToDist(da
7Unpause
7Win(l
7_founder
7s
8(a
9d
4usMultiSig
6$
;sAllocated
2ssion
7BlockSize
7Dura~
7End@
7Id
7Number
2t(<!SetLib.!Set storage>ab
<UintMap>ba
4Ncccf
4Xb
4a
5aa
5b
4b
5a
6a
5b
6a
5ma
4c
5bi
5c
5d
4dbd
5c
6d
5d
4fc
4ie
4j
4w<uint24[]>
30xExchange(b
=Wrapper(b
5$Proxy(b
3ABI(daj
5ackend(db
4CL(be
5marge(e
4ElfCommunityMultisig(b
7DevMultisig(b
7Multisig(b
4IRDROPBounce(a
:^(a
4MLWhitelisted(bf
ABulk(gG
4NT(bbb
4RKowner(b
5R(b
4Store(cb
4UM(a
4bel(b
4cceptPayment(f
9able(b
9edLegacyAugmint$(bf
7ssControl(bbe
Df
9Manager(b
9Policy(bb
9ory(eb
6ountA(b
;llowance(bba
:B(b
;alance(ba
:C(b
;oords(c
:Data(baa
:FeeModifiers(baa
;rozenStatus(bf
:IsFrozen(bf
BByDate(ba
<NotFrozen(bf
EForReturn(bf
:Level(ba
:Nickname(c
;ote(c
:Registry(b
:S(b
;hareRuleGroupId(ba
:Url(c
:Verified(b
:ingParams(aaa
6redita~Active(ddf
5hievedDate(all
5~(ca
9&(bf
7va~(b
=Fee(a
=@(aa
:or(b
8e
9(af
:f
9HashType(df
:ero(a
9Skin(a
:tatusEgg(af
9@s(hh
:ranscoders
9ValueBonus(f
9Whitelist
8ity(bf
;Core!(b
;State(f
4d(cc
5Data(acc
5Owner(ab
5^Multiple(a
5URI(ac
5d(db
6Bonus(aa
6OwnerRequest(b
6$Data(baaa
6i~^(a
;alBonusPercent(e
=Owners(g
6r(b
8cb
8db
7&Caller(b
7ForPrivilege(b
7ess(ab
;b
<bbb
;cb
;db
<cb
<db
>f
:Arr(g
:OfERC20Old$(b
ATocken(b
Cken(b
:$(b
:Value(cb
:es(bbb
<ForRain(g
<ThatCanList(fg
5min(ab
9b
:b
:f
9db
9gf
8!(b
?ForComissions(b
8&(bf
8Level(be
8Mode(f
8Payout(e
8Status(ba
8Variables(aaaa
Fa
8|(b
8istrator(b
Bcf
Bf
Adf
8list(bf
5s&!(b
6Storage!(b
5ult@(a
5v(acc
6entureHandler(b
6isers(gh
8or(b
:!(b
:Fee(a
:s(b
;Team!(b
<okens(a
APercent(a
A|(b
:yPool(b
;|(b
4ffiliate&(b
<Level(a
=ist(b
<Program!(b
<Rate(aa
;ion(ba
4genda(c
7t(b
:f
8!(bb
8Rate(ba
8Verifica~ByAdmin(bbd
Ggent(db
5onFight(b
7Values(M
5riChainContext(b
=ultiva~(b
<Data(b
=istribu~(b
=ocuments(b
<Produc~(b
<Seal(c
4irDrop(aaaa
;f
:Destina~(b
:Manager(b
:PayableTag(fa
:ShadowTag(fa
:$(b
6Lift^(a
6dorpList(gf
7rop(a
:!(b
<min(bf
;mount(a
:Enabled(f
:Params(fa
:Receiver(b
:Status(f
:TotalSupply(a
:er(b
:per(b
4lias(c
8^(a
5l&s
6HatchConfigs(waw
6Loca~s(h
6Rates(aaa
7esourceERC20!es(b
6Stopper(b
7upply(a
6ies&(b
6ocateAgent(bf
:ion(ba
@aa
Ba
@e
@hh
>gh
=s(aaaaaa
7wBurns(f
:y(f
;ing(f
8Change^(f
9laimUser(b
9ontribu~Flag(f
8DisbursePaymentWhenPaused(f
9rawETH(f
8Marketplace(f
9ining(f
8^Update(f
8Refunds(fa
8Sell(f
<Lands(k
9tart(f
8Trading(f
;nsac~s(f
=fer(f
@External(f
@Global(f
@Local(f
@@stamp(a
@Whitelist(f
@s(f
8ance(ba
>ba
@a
?ba
<!(b
>min(bba
<Sheet(b
8ed(b
<ba
;gef
:Account(b
;ddress(b
Aes(bf
:&(b
:Multivest(b
:ToBuyBack(f
<Purchase(f
;ransferFrom(bf
BTo(bf
5pha(a
5tCapitaliza~(a
6Deposit(a
=s(a
4mbassador(b
=!(b
=s(bf
6i!(bd
5ount(a
;aaa
:ba
:gh
9Bonuses(aaa
Ahh
9ForDeal(a
9PerEther(a
9SoldPerPeriod(a
9ToClaim(ba
;Distribute(a
;Receive(a
;ken(a
9s(aa
7t(a
4ndFix$^InWei(a
5gel(ebak
8Date(a
8FinishDate(a
8Holder(b
8LastBattle@(l
<VsBattle@(l
5imalMeta(ac
8tor(b
5nouncement(c
6ual^(a
4pi!(b
6Calls&!(b
6Registry&!(b
5p(b
7ca
9b
6lica~(bb
6rovalCount(a
;ForAll(bf
ABy&(bbf
;s(bba
9e(bba
;f
:Fee(a
:Owner(ef
:d(ba
;Buyer(bbf
;&s(bf
;User(b
;|(b
:r(b
4quaman(b
7rium(b
;Cost(a
4ragonDevMultisig(b
5biterLocked(bf
8ra~FeePerJuror(a
>Percentage(e
;or(b
5enaPool(b
5quivo(j
5rayLimit(a
5tEsc(cc
7vt(cc
6Idt(cc
6coin(bbb
6icleHash(ac
7stAccount(qb
9Fees(a
4sBurner(bf
5LotteryRunner(bf
5Minter(bf
5Seller(bf
5Test
5set(b
8Cooldown(aal
8Holder(b
8Level(ka
8Proxy(b
8Stats(k<uint8[10]>
8ToExpire(a
8s(g
9Certified(a
9OnDeposit(a
6ignedID(bac
6ociated&(b
4tomCool(ae
7Dna(al
7Fath(al
7Gen(ae
7IsBuy(an
9Ready(ai
;nt(an
7Lev(ae
7Moth(al
7Owner(ab
7Sons(ai
5tack!(b
9BoostCap(a
>Multipler(a
9Fee(a
6rCustom(aaaa
7ibute(<AttributeStore.Data storage>dca
=bcja
>dja
=ccj
<Signed(beddcja
Gdja
<Type(ac
<s(j
7s(aaaaaaaaaaaa
9bbbeaa
4uc~(aaa
;b
:!(b
:Dura~(a
BRules(aaa
:Fee(a
:Manager!(b
:Obj(baa
:Parms(aaa
@bbaaa
;rice(a
?Limit(a
:StartBid(a
:WinnerMessageHash(d
:sEnabled(f
5ditor(b
5thor(ac
:c
9Name(c
9ity(<DSAuthority>
=b
<&!(b
:za~(bf
;eMint$(a
<d(b
?f
=!(bf
=&(cbf
=Logic&!(b
=Minter(bf
=ToDraw(b
=User(bf
=Withdrawal?(a
<r(b
=!(b
6o!(b
7BirthFee(a
8uy(a
:Fee(aa
7PayFee(f
8rice
7Sell(a
7pay(f
4vailability(f
:le(f
<AfterStart(a
<Posi~s(a
<Supply(a
<$(a
6tar(a
9Fee(a
5erageBlock@(a
5gGas(ek
6SalesCount(a
4ward$s(f
4xe(a
4yantDroitEconomique_Compte_1(a
P0(a
O2(a
O3(a
O4(a
O5(a
O6(a
O7(a
O8(a
O9(a
3BBD^(a
4CF&!(b
5Y(a
4EY(b
4GX$Interface(b
4LInterface(b
4OPS!(b
4TB!(c
5CRate(a
5HFounda~|(b
5TS$(b
4ZRx$(b
<&!(b
5x!es(bbbb
4ackEnd!(b
7end(b
:!(b
:Operator(b
;wner(b
:ProxyBuyer(b
:|(b
7up(b
9Owner(b
5gMultiplier(aa
5l(dba
6anace(dba
8ce(a
<f
;ba
:Admin(ba
:ForUser(da
:Limit(ba
:Of(ba
<Addr(ba
:PercentageLimit(a
:Sheet(b
:s
;(aa
<ba
<gh
;USD(ba
6lotOwner(ab
5ncorConverterFactory(b
9Registry(b
6k(b
9a
9b
7er(b
;aa
7roll(b
;er&Once(b
6nedCycles(U
@h
5rrierAsOpen(f
5seCap(a
7EthCap(a
=Per!(a
8xchangeRate(a
7Info(aff
<b
9terest(a
7^(<uint256[20]>aaaa
=a
>j
7Rate(a
<ghh<bytes14[]><bytes14[]>ah
7Summon^(a
7$(b
<GetRate(a
<s(bb
=Sold(a
7URI(c
8ri(c
9l(c
7lineRate(a
6icBallotsPer30Days(a
8Cents^Per30Days(a
8IncomeLimit(a
8Rate(a
5tchDetachCollectibles(h
8Limit(i
8Number(gh
8;(bf
6man(b
6tle!(b
9&(b
A!(b
9Decider!(b
9Fee(a
9Provider!(b
9Remove&!(b
9Start(f
9$!(bb
4b!(c
4cdcReserveFund(b
4egin@(a
<TS(a
5halfer(b
5nefeciar(b
8iciary
>(b
@aaa
@d
>1(b
>2(b
>!(ab
Fb
9t(b
6ificiary(b
5st(e
7Angel(i
7Probability(e
5tFee(a
6Limit(aa
6Max(a
6^s(h
6Unit(a
6tingCondi~(aa
4gx|!(b
4idFeePercents(a
6ding(f
;ta
5gICOStopped(f
6^(a
5rthBlock(a
8Fee(a
5tGuild$(b
6STD(bb
6coinRate(a
6paintingStorage(b
6wordsCut(a
;Withdrawl!(b
4lackBox(b
8FlagRequest(aa
9unds|(b
8ListERC20(b
@23(b
8flag(af
8list(b
>f
=f
=if
5eachDailyLimit(a
9^(a
5ock(aac
8Delay(a
8Lock(a
=f
8PerHour(a
8Reward(a
8Sze(a
8TargetDelay(a
8Value=(a
8ing(bf
;State(baa
8s(aa
9PerMonth(a
<PayPeriod(a
<Round(l
4n(ddc
4oardAdd(b
8Member(aa
Aaa
5nus
8(<uint8[5]>
9a
:aa
9e
9f
8!(b
8Crea~Rate(a
8Date1(a
<2(a
8Extra(ba
8List(b
8Multiplier(a
8Off
8Pattern(hh
9ercent(a
9hase(f
9rice
8Rate(a
9eceived(bf
8State(a
8Thresholds(hh
9oken(baaabaaa
=RateLevelFour(a
FOne(a
FThree(a
Gwo(a
8UnlockAt(a
9ser(b
8es(aaa
>a
;f
;h
<hh
:For?s(<uint128[]>w
Ehw
Eww
=@s(ww
5ol(cf
8ddf
9f
7eanMapValue(cbf
:Value(cf
6sters(b
5t(b
6!(b
5unties(gh
8y
9(b
;a
;ca
:d
:gh
9!(b
:gent(bf
:mount(a
9BeneficiariesCount(a
9Campaign(b
:oin(b
9Distribu~&(b
:ura~(a
9Factory(b
9Manager(b
9Owner(b
9Percent(a
:ool(b
9RewardPercent(a
9TeamUnfreeze@(a
:oken|(b
>s(a
?Count(a
?Percent(a
?Reserve(a
?|(b
9|(b
?!(b
5xCount(kk
6^(aaa
4reed@out(i
8ingFee(a
5idge(b
9Height(a
9Node(bf
9Width(a
5oker(b
;a
9Fee(a
4tcBuyer(b
6EthRate(a
6^Provider(b
6$(b
;Bought!(b
6UsdRate(a
4ubbled(b
5cketManager(b
5dget(bc
5ild^(a
8ing(aa
5ndinha(c
5rn!(b
8fterSold?(a
7Formula(b
7Policy(ff
7Rate(a
<e
7Start(f
7able(f
7er(b
;f
9!(b
9Owner(b
7ingPercentage(a
6sar(b
5stRange(a
5ttonParams(aaii
5yAllowed(f
7uc~!(b
6BackFund(b
:^(a
6Comission(a
?Units(a
9mission(a
@Bps(a
8urse(a
6DirectMode(fb
8videndPercentageFee(e
Maa
6Enabled(f
7xchangeRate(a
6Fee(i
9Bps(a
6Limits(aa
6Now^(a
6Open(f
6^(a
=a
<ba
;s(a
6Rate(a
9io(a
6Status(f
6back^(a
6er(ab
8!(b
8Rate(ba
6ingCostumeRate(a
9Escrow!(b
6outDividendPercentage(a
9FeePercentage(a
4vToBpFee(a
4wMarketValidCaller(b
5ServiceValidCaller(b
5ValidCaller(b
4yeSayer(bf
5lawBytes32(dd
8Uint256(da
5passStatus(bf
5tes(bc
9dj
832(dd
=df
:Value(cd
8Raw(c
8Value(cj
7therOV!(b
5uoutActive(f
9Count(a
3C4F&Owner(bb
>Provider(bb
FCompleted(bf
FLock(bf
>RequesterLock(bf
>Status(be
4AO(b
4CH_edit_1(c
=0(c
=1(c
=2(c
=3(c
=4(c
=5(c
=6(c
=7(c
=8(c
=9(c
<2(c
=0(c
=1(c
=2(c
=3(c
=4(c
=5(c
=6(c
=7(c
=8(c
=9(c
<3(c
=0(c
=1(c
=2(c
=3(c
=4(c
<4(c
<5(c
<6(c
<7(c
<8(c
<9(c
4EO(b
6!(b
5x(b
4FO(b
8f
4GO(b
4HGUSD^(a
4LC(b
5IForGas(a
5OUDForGas(a
4MO(b
4OMMUNITY_POOL_ADDR(b
5O(b
8bbb
61(b
62(b
63(b
6!(b
4RManager(b
5YPTON_CUT(k
4S(b
5CERC721(b
6FactoryERC721(b
5Interface(b
5O(b
4TO(b
5ime(a
4XLExchangeRate(a
4ache(b
8ClassInfo(i
5issa
5lFactor(ii
6culator!(b
6lback!(b
7ee&(b
8r(b
5mpaign(aa
<b
<daaaafb
;BudgetById(da
;EndDateById(da
;OwnerById(db
;^ById(da
;StartDateById(da
;ValidById(df
5nAccept$s(bf
6Burn(f
8y(f
6Change(f
7laim(f
;PartnerBonus$sPhase1(f
R2(f
B$s(f
<resaleBonus$sPhase1(f
R2(f
B$s(f
7reateGrants(bf
6DisburseMultiple@s(f
6GetMoneyBack(f
6Trade(bf
9nsfer(f
6celApproveFee(a
9Fee(a
6dyLand(b
<Sale(b
8Power$(b
6vasName(ic
5p
6(a
8c
6ETH(a
6ForParticipants(gh
6Rec(hha
6Tab(aa
6Usd(a
6acity(aa
6italiza~(a
8ol(aa
6s(<PresaleLib.Data storage>wh
8aa
:a
;a
<a
8wh
6tainIndexToCount(ia
:$&(b
5rd&(b
7Draw^(a
7PerkText(ac
7$!(b
7UpgradeLevels(aaa
7s!(b
6rotsMultiplier(e
5sino!(b
9Name(kcc
6tle(llllll
9&(b
9Sale(aa
5tAttributeValue(aac
6^(aa
6alogPlayers!(b
6chable(if
6egoriesCreator(b
:yCap(aa
4elebrity^(aa
6l(ba
5ntralAccount(b
:Banker(b
7sExchangeRate(a
8PerEther(a
;Month(a
;$(a
9ool!(b
5rtificate(ccccccc
:erDb(b
<Id(bc
=nfo(bfc
<Status(bf
4hain(bbb
9cbbb
8Fees(<uint256[10]>
8Ledger(b
8Next(b
8Prev(b
8Root(b
8Type(c
8s!es(bm
8yURL(c
6llengeCooldown@(a
<Fee(a
?Multiplier(a
=ormula&(b
<RewardsPercent(a
<Science&(b
6mpEC(b
8ForSale(aa
8ion(a
8sName(ac
6ngeFee(a
=i
9IdentityNarcoRespect(a
6rge(f
9Fee(a
<Pool(b
9r!(ab
7ity(b
:!(b
:Beneficiary(b
:Dona~(a
:Fund(b
5eckBonus(f
8MinContribu~(f
8sOn(f
6mistry!(b
6st^(ka
:oduct(kakfiKKee
8s(b
5ibiForFusion(aa
8GEN0^(a
6ckenHunt(b
5unkSize(a
4ircula~Cap(ba
5tyPicture(ac
7Slogan(ac
7Values(hahh
4laim(a
9bdd
8Date(a
9ividendPercentage(a
8^(a
8Repository(b
8Signer!(b
9tatus(f
8$(f
9reshold(a
8able(f
<$(b
8edFlag(f
9r(b
:ForTile(kb
8ingCosts(a
6mTax(a
;e
6ssName(ec
5eide(a
5ientIdentRejectList(ge
5ose@(a
8dManually(f
7ing@(a
6ut(b
4md(a
6_control(a
4oAuthor(b
5Owner(b
5ach^(aa
5de(a
7Size(a
5in(b
7Allowance(bba
7=(ba
Aef
7&(b
7Info(b
7^(a
7Storage(b
7age&(b
7s(bb
8aleactive(f
5ld!(b
7|(b
=1(b
>SplitPercentage(a
=2(b
=!(b
6lect$@(a
:ibleExposure(b
:or(b
6or(ec
9kK
88(ae
8Black
:ue
8&(b
8Green
8Orange
8Pink
9urple
8Red
8Teal
8White
8Yellow
8s(ee<bytes32[32]>
:kMa
:wp
9X4(<uint16[4]><uint256[20]>a
:8(<uint16[8]><uint256[40]>a
5mbatWonTeam(an
6ission(a
<List(b
Bb
6ment(Wc
;aWc
;c
7ission(a
>ba
>i
=Points(a
=Rate(a
=Target(b
=|(b
=s(aa
8ttee(b
7ons(b
7unity(b
<!(b
<BallotCents^(a
<Lock(b
<Multisig(b
<$sHolder(b
6pactData(<bytes14[]><bytes14[]>ah
8ny
:Manager(b
:|(b
@!(b
8re(I
7lete(f
;d(a
=f
8ianceService(b
7onent(cb
8siteReputa~(ci
;ion!(b
>^(aa
7te_1(c
;0(c
;1(c
;2(c
;3(c
;4(c
;5(c
;6(c
;7(c
;8(c
;9(c
:2(c
;0(c
;1(c
;2(c
;3(c
;4(c
;5(c
;6(c
;7(c
;8(c
;9(c
:3(c
;0(c
;1(c
;2(c
;3(c
;4(c
;5(c
;6(c
;7(c
;8(c
;9(c
:4(c
;0(c
;1(c
;2(c
;3(c
;4(c
:5(c
:6(c
:7(c
:8(c
:9(c
5nfig
9(aa
<a
=a
>a
?a
<ccaa
;eeeee
:baaa
:ca
;c
:d
:lcaabc
9!(b
Adb
9Bool(df
:ytes(dd
9Class(ieeei
9Setup&(b
:tring(c
9Uint(da
9ura~(UU
Aa
Baaaaa
Ga
Dm
Cm
Acca
Ahh
8rm(a
:a~Period(a
:er(b
6sola~RewardsClaimPercent(a
EPercent(a
ERequiredFaith(a
7traint(dbba
7umer!(b
6tact(c
:Informa~(c
7ent(cd
;dd
;ecc
:URI(ac
7inueSelling
7rAddr(bb
<AndCrwSale(fbbbff
8act(ab
<b
=a
=b
>b
?b
@b
<cb
=c
;Active(f
<ddress(b
Bes(bbb
=min(bf
Ca
<llowance(ba
;Cap(<PresaleLib.Data storage>a
?a
;Dura~InDays(k
;Erc20$(b
;Frozen(f
;Hold=(a
;ICO(b
>!(b
<nfo(dbr
;Lock(f
;Master(b
<essage(c
;Name(c
;Origin(bf
<wner(b
;PreICO(b
=ovider(b
;Registry(b
;SK(cc
<take$(b
>rt(f
;$(b
;User(bf
;orsProfit!(b
;s
<(Q
=bb
?b
@b
Ab
8ibPeriod(aaaaa
:u~(ba
?Dates(aa
Ell
?InWei(a
?LockPeriod(a
?Minimum(a
?Pool(b
?Settings(aaa
<or(bfkkb
>Cap(a
8oler(b
:ler(b
=!(b
=Delegate(b
6versionFee(i
=Path(g
=Rate(a
A!(b
=Whitelist(b
5okUpFee(a
6lDungeon(i
7Hero(i
7down(a
=a
>a
<ki
<l
;EndBlock(al
;Index(a
;@(a
;s(<uint32[100]>
5paCore!(b
7Market!(b
5re(b
7&(b
5signer!(b
Dd
BForUser(b
;CallGas
6t(a
7Of$(a
7ToCancel(a
:reate(a
?Game(a
7s(<uint128[]>
9aa
5uldTrade(a
6ntPlayersInPosi~(a
8WinnerByPlace(aaa
>Place(a
8down(M
8ryPicture(ac
:Rank(aca
:Slogan(ac
:$(b
6pon$(b
6rceSale(a
7se(a
7t(b
5vman(b
9ager(b
4raftAuc~!(b
8ing!(b
5cWithdrawAccount(b
5eateChampFee(a
9DigitalArtFee(n
;videndPercent(a
9^(a
9Unicorn^(aa
8ion!(b
;Curator(b
;Fee(l
;^(a
=ofit(a
8or(b
<a
:FeePercent(a
6dit(ba
9Bit&(b
:ond(b
=&(b
9Dao(b
<!(b
<Fund(b
9Game!(b
9MCCurator(b
:c!(b
9Status(f
9bit(b
6sus(b
5ossForkBlockNumber(l
<Distribu~(b
6wdSale(b
=f
<!(b
<Start(a
?tus(f
8fund!(b
8sale(<Crowdsale>
=aa
=b
>a
>ba
<Active(f
=ddress(b
=gent(b
=ndVesting(bbb
<Blocks(aaaa
<Close@rFor(a
Ad(f
=ompleted
>ntract(b
D!(b
<Data(aaa
?e(aaaa
@s(aa
<EndBlock(a
?Date(i
?@(a
<Finished
<Interface(b
<Manager(b
=inter(b
<Open(f
@@rFor(a
<Params(aaa
>use(f
<Stage(a
?rt(a
ABlock(a
ADate(i
A@(a
AandDura~(aa
<@s(aaa
=otal(a
=ransfer(ba
<|(b
5ydrController(b
8Storage(b
8View(bc
6ptaurRecovery(b
=serveFund(b
=wards(b
;$(b
8oAgent(b
9Cup$&!(b
9Jingles&(b
9MatchValue(ac
9SagaCardSwap&(b
4tu&(b
4urator(b
6rency(a
9t(a
:Ac~(ae
>veGameID(a
:Badge(d
:Coin(b
:ExchangeRate(a
:FundingGoal(a
:MarketRate(a
;ilestoneMeeting@(a
:OwnerFeePercent(a
:Period(a
;hase(e
;rice(a
?PerWei(a
:Rate(a
;evision(b
<wardNum(a
@$s
;ound(a
:SaleDayAndBonus(e
;eller(b
;tage
?(a
@e
=te(f
:Version(c
:WeekPool(a
6s(a
8e
7ed&(b
5stodyFactory(b
8mBonus(a
?bffb
:uyer(ba
>Limit(bba
9DisputeFee(da
9Event(aafca
:xtraData(dadd
9Gas^(a
9erService(bf
;TxAsSpent(bd
5t(a
8a
9a
7k
6off(a
9s(a
4ycleLimit(a
3DAIRate(aa
5O(b
6AndMultiSig(bb
6&(b
5dmin(db
5pp(b
4CNForGas(a
4DF(b
4EV(b
5ditor(dbf
5rc20(db
4NA(aa
5oEditors(d
4Owner(db
9FromClaim(db
4S(b
5TMultiSig(b
6|LMNO(b
4TR(b
4VIP(b
4aVinci(b
5i(b
6lyHourLimit(e
8Limit(a
8^(a
8Supply(a
8$Limit(a
8WithdrawLimit(n
5o(b
5pCar$(b
6pOwner(db
5ta
7(b
9c
8c
9c
:c
;ccc
7Auc~(b
7Colla_001_001(cc
C2(cc
=AA_01(cc
A2(cc
>B_01(cc
A2(cc
9ntract(b
7Equip(b
7Factory(b
7Int(cc
7Link(ac
7Mining(b
7Source!(b
8torage(b
7_1(a
:c
90(c
91(c
92(c
93(c
94(c
95(c
96(c
97(c
98(c
99(c
82(a
:c
90(c
91(c
92(c
93(c
94(c
95(c
96(c
97(c
98(c
99(c
83(a
:c
90(c
91(c
92(c
93(c
94(c
84(a
:c
85(a
:c
86(a
:c
87(c
88(c
89(c
7baseDownloadUrl(c
6eMainEnd(a
;Start(a
7Start(a
7@Lib(b
7s(aa
;a
5yEthInLimit(a
6First
6Second
8ll?(aa
6Third
6Withdraw(a
>Count(a
6s(a
4eadline(a
6lCancelRate(a
7erCut(e
6thBlock(a
5bug(f
8Mode(f
5cider(b
7mals(a
<e
7sion(db
5dicatedProxy(b
5faultAllowedLock(a
;uc~^s(aa
:BuyerLastPaidAt(a
:ClaimPercentage(a
:Execute@(a
:Fee(a
;riendsFingersRate(a
:MaxJump
;inting!(b
:NumberJuror(k
:^(a
:Reputa~ForManufacturer(dd
DReward(a
<solver(b
:$URI(c
:URIEnd(c
=Start(c
:VestingParameters(aaaaf
:WhitelistVestingParameters(aaaaa
6conLevel(k
6endBoostCap(a
>Multiplier(a
6roster(b
5lay(a
:ea
8ed$Allocator(b
6egate(b
=f
<f
;Admin(bcf
<ndLock$s(ab
;|(b
;dFrom(b
@Opera~
5murringFee(ii
5nyPremium(df
5pendencies(bbbbbb
6loyer(ab
<b
6osit(b
:!(b
Cbb
:Creator(b
:GasCost(e
:Lock(f
:Percents(a
:ary_func~(a
F_control(a
:ory(b
7t(aa
6recated
=(a
>bcc
?f
>cb
>f
=Manual(abf
5sc(c
7rip~(c
>Hash(d
8u~&!(b
6ign(ac
6tina~Multisig|(b
>|(b
7ory!(b
7royEnabled(f
:Threshold(a
:er(b
8uc~!(b
>Curator(b
5tachment@(a
7il(c
5vCutPercentage(a
6Fee(a
9Percent(a
6Limit(a
6Percent(a
6$sPercent(a
<|(b
6|(b
6elopeo(b
;r(b
>f
=c
<Cut(a
<Status(bf
<|(b
<s$s(a
CPercent(a
C|(b
:mentAuditPromo~$sPercent(a
L|(b
5x(b
4iamondAuc~!(b
5fficulty(a
5rectDebit(f
9MintAgent(b
=Limit(a
9OffersComissionRatio(a
9PaymentThreshold(a
9or(b
;Lock(aa
;Node(c
5sable(bf
:d(f
6bursement?(a
:ingAddr(b
6cipleItem(aa
;Sale(aa
;Vend(aa
7ount(a
<e
<hh
;ForPlayer(baa
;Member(bcf
;Percent(aa
;Stage(aaaa
=ep(a
;@(a
@l
;ValueOff
An
;edInvestor(bf
6patcher!(b
7ute(b
:Fee(a
6tConfig(gh
7ributeAgent(b
Df
>mount(a
=dAutonomousExchange(b
<ion(M
@aaaa
?!(b
?Minimum(a
Gk
Bter(b
?Percentage(aaa
?Size(a
?@(a
<or(b
@f
Aa
?g
>!(b
?mount(bfa
9ct0xNetwork$(b
;!(b
;Code(d
5vBonus(a
6idend(a
;Commission(a
<utPercentage(a
;Distribu~Pool(b
;Fee(e
;Manager(b
;Payout(aa
;Transac~Number(a
;Winners(hhpa
;s(aa
=i
<Distributor(b
7sor(a
4naExist(lf
6Mixer!(b
5srr(dj
4oNotAutoRefundTo(f
5cumentData(ccccc
5ge(b
5lRate(a
6lar(a
9ForOneEtherRate(a
9Rate(a
5mainOwner(db
5na~Receiver(b
=ward(a
;UnlockTs(i
;sReceiver(b
8orReward(ehe
5ubleClaimSegmentSlash?(a
5wntime(a
4raw!(b
7Date(a
5op(f
9aa
7?(a
7Number(e
7able(f
4th(b
4ungeonDifficulty(a
:Prepara~@(a
:Status(aa
:$&(b
5ra~(a
<l
;OfLock(a
4ynamicCeiling!(b
3E4RowPartner(b
493&!(b
4DU^(aaa
4F&(bba
4LHero$Addr(b
5IX!(b
4MAPeriods(a
4NDPhase
5GCommunity!(b
6Dev!(b
5S(b
4OMarket$(b
4RC(b
620!(baa
9pproveChecking(f
8TotalPromo(aa
8address(b
723Activated(f
6721!(b
777(b
6&(b
4SCBCoin(bbbaa
7DevMultisig(b
5OP(bb
4TH(ba
7ca
6!(b
7ssets(b
6Fee(a
6Rate(a
<a
6USD(a
9^(a
9Rate(a
9demon(b
4arlyBirdDura~(a
8End@(a
9xchangeRate(a
8InvestorExchangeRate(a
@sBonus(a
8Params(faa
;icipantWhitelist(bf
Naa
BsWhitelist(gGhh
;ticipantWhitelist(ba
Nf
Oaa
LMultiple(gGhh
CsWhitelist(gGhh
8WhitelistQuotas(gaa
4conomyParameters(nnnnnnn
4dCore&(b
5gePerPosi~(a
5itModeBool(f
7ionLimits(aeee
:MaxSales(ea
:Name(ec
:Pack^(ea
CIncrease(ea
>Size(ee
:Sales(ea
7or(b
5oRate(a
4ggLimit(kk
6Table(kw
7otal(ea
4idoo|(b
4mail(c
8Sent(ad
5ergencyAccount(dd
<Code(aa
<Secrets(aa
:tHalt(f
5ission@(a
;s(h
6tter(b
5ojiMsg(ac
5ployee(biiiiiiie
;Salary(aa
4nable(f
9BuyAndSell(f
9InternalLock(f
9Purchase(f
9Record(f
9Sell(f
9WhiteList(f
9d(bf
;f
5crypt&(b
5d(a
7f
6Block(a
;Number(a
6CloseSale(a
6Date(a
6Edit
6ICO(a
7coMainICO(a
9PreICO(a
6MintDate(a
6OfICO(a
6PreICO(a
9Sale(a
6Rate(a
6Sale(a
:Date(a
:@(a
7tage1(a
;2(a
;3(a
6@(<BBLib.DB storage>l
AV7.DB storage>l
;a
<l
;i
;l
:Stamp(a
:stamp(a
6ingBlock(a
9@(a
6sAt(a
6tDate(a
5force(f
:!Match(f
:Revisions(r
5s(cb
5tranceFee(a
7yFee(a
8^(a
5velopeType(ay
4pisodeManager(b
5lay(b
5ochData(<>lla
=aaahaa
=nlla
4quipmentTrainingFeeMultiplier(a
4rc20(b
8&(b
8Rate(ca
8$s&(b
723Activated(f
5up~Threshold(a
4scrow(b
9!(b
9Fee(a
9$s|(b
:ransfer(baaf
4th(<uint128[2]>
6?(a
7uc~(b
6Collector(b
6Deposit!(b
6EurRate(a
7xRate(a
8change|(b
6FundDeposit(b
6MinContribu~(a
6Plan(baaf
7re?(a
8ice(a
<n
;InDollar(a
;Provider(b
:ies(e
6Rate(a
;k
7elief(b
6ToBeClaimed
8Cents(a
8$Conversion(a
8USDRate(a
6USD(a
7sdRate(a
=InCent(a
6|(b
6artArtReward(a
9RevenueReward(a
6eal$(bb
7r?
8Cent^(a
9ostOfEach$(a
8Delta(b
=Executor(b
=Fees
8ExchangeLikeCoin(i
8Holder(b
8InUSD(c
8^(a
=InEuroCent(a
?PoundPences(i
?USD(c
=USDWEI(a
=s(aa
:oceedsAccount(b
8Rate(a
=k
;ioForOwner(a
9eceivers(bg
8UsdRate(k
8affle(b
8eumRate(a
;|(b
8nautsStorage&(b
8oll!(b
6main!(b
4venDistThresh(a
7tActive(fc
6ryBidFee(a
4xchange(aaaa
<b
<f
;AdapterManager(b
=dress(b
;Commission!(b
=ntract!(b
;Details(dd
;Flag(f
<ormula(b
;Interval(a
;Limit(a
;Oracle(b
;^(a
Am
;Rate(a
Aa
@b
?Agent(b
@uth(b
?ETHToUSD(aa
?Oracle(b
?s(a
<egulator|(b
;Start(f
>tus(ff
;Threshold(a
<oken(<GSI$>
Ab
;able(f
;r(b
>f
6lude(b
<f
8siveRate(baki
5ec^(a
7utiveOfficer(b
9or(b
5haus~@(a
5pReward(i
6ectedRate(b
6ira~(a
?a
=@(a
8edAndWithdraw
E(b
8y(a
:ba
6losivePower(aa
6ortFee(ba
9er
;Bank
5tendedPlayerAttributesForPlayer(ap
;$Cap(a
8sions(b
7rnalCurrencyProcessor(b
6ra(ab
8=(ba
9onus(a
8Config(aa
Aaaa
8Distribu~(ba
8$sPercent(a
>|(b
3FABAcompany$sPercent(a
D|(b
4IRST_STEP_LIMIT(a
>MULTIPLIER(k
4LKDForGas(a
4OUNDATION_POOL_ADDR(b
8ERS_POOL_ADDR(b
4ST(b
6!(b
6KCentral(b
6^(aa
4WDaddrETH(b
4actors(aaac
9y(b
:!(b
;sset(ak
:Name(ac
7s
5deoutStarts(bi
5iled
9Verifica~Slash?(a
5ke@(a
5llback(b
5shionSuitCount(ka
5ucetThresholdSecs(a
4cf&!(b
4echaTax(a
5e(a
8a
9a
:a
8b
8ka
7ba
7e
7k
7n
6Account(b
?f
=1(b
=2(b
=$(b
7ddr(b
:ess(b
7uthority(b
6=(a
7ps(a
7urner(b
<Wrapper(b
C!(b
6Calculator(b
7ollector(b
6Divisor(a
6For(b<uint128[2]>
9ArtWorkChangeRequest(a
9FirstArtWorkChangeRequest(a
9mula(b
6Info(c
6Parameters(aaaa
;s(aa
=kaa
7ercent(a
=age(a
Ae
9iodDura~(a
7rice(a
6Rate(a
<aaaaa
9io(a
7eceAccount(b
:iver(b
9ieverValue(ab
:pient(b
6Schedule(aaaa
7haringValue(a
7tructure(aaa
6Take(a
7oken(b
6Unit(a
6|(b
6d(b
7!(b
6rate(J
6s(a
9a
:a
8bbaaa
7Controller(b
7PerTenThousand(a
5maleBonus(g
4iatPerEthRate(a
7RaisedConvertedToWei(a
5ghtAuc~!(b
8Factor(e
8erCore!(b
:s(iih
8s!(b
5nalICOPeriod
8Lottery!(b
8@stampOfBonusPeriod(a
8ise@
:tTeams(cc
9zeAgent(<FinalizeAgent>
Ab
;d(f
7nce(b
9ialAdmin(b
<Officer(b
6derFee(a
6ish(a
9@(a
9ed
;(aa
<ef
<f
;Tx
=(b
5rstBonus(a
=LimitPercent(a
=Percent(a
=$sLimit(a
8PeriodCap(a
>EndDate(a
8RankForFree(f
9oundPricing(a
8StageEndsAt(a
=StartsAt(a
8YearAllowancePercentage(e
5shbank(b
5x^(a
6edRate
4lags(ba
9ffffffffffff
6tFee(a
5owerAuc~!(b
9&(b
4orDutchSale(aaa
6Rent(aaa
6Sale(afa
6ce&(b
8Nsfw(Nf
8Offset?(aa
6eignDailyLimit(a
6mula(b
6ward(b
;sb
:PurchaseFeesTo(b
:UpdateFeesTo(b
5undAcc(b
8a~(b
?b
=!(b
=|(b
8er
:(ab
;b
:Alloca~(ba
:MultiSig!(b
:Percent(a
:$|(b
:User(b
:|(b
:sPercent(a
;$sPercent(a
AReserve(a
A|(b
GMaster(b
GSlave(b
;|(b
6rth!=(b
4reeClaimAllowance(ba
8oins(a
9unt(a
7Dino(k
7Extension(df
7LOT(b
8obster(k
7@(aa
8ransfer(f
?Allowed(f
7z@(a
8e
9(b
;a
9Admin(b
:gent(bf
9End@(aa
9ForAngel(aba
<CoreTeam(aba
<Founding(aba
<PEInvestors(aba
9Hybridiza~sCount(aa
9In(gf
9MustCalculate(af
9Oracle(f
:ut(gf
9Tx
;(b
8ing(baae
;Manager(b
;Percentage(e
>iod(bfa
;Status(e
5iend(b
9sFingersRate(a
EForCrowdsale(ba
A|(b
GForCrowdsale(bb
5om&Addr(b
6nt(b
8Window(b
8end(b
6zen(bf
<a
:f
9Account(bf
@ICO(f
4sTKAuthority(b
4unc~Eight^(a
;Five^(a
<our^(a
;One^(a
;Seven^(a
<ix^(a
;Three^(a
<wo^(a
6d(b
9c
7Account(b
8ddress(b
7&(b
7Management&(b
8intingAgent(b
7On&(f
7Repository(b
7|(b
7ariaBonusFund!(b
;Pool!(b
;$Buy!(b
7erSmart$(b
7ing(a
<aaaafa
;f
:?(a
;sset!(b
:Block(aaa
:Cap(a
:Enabled(f
<d@(a
<v(aaa
:Fueled
@(a
:Goal(a
@f
:Lock(fb
<wcapReached(a
:Rules(baaaaa
Afaaaaa
:Start@(a
Ea
:tokens(a
7raiseLimits(aa
<r!(b
=CallData(c
7sCreditBit&(b
?ond&(b
>Dao!(b
8|(b
6gible$!(b
4x(b
3GBA(i
5T(b
4LA(i
4NR(bbb
4RForGas(a
4ainsRate(a
5lleryFive^(a
;our^(a
:One^(a
:Seven^(a
;ix^(a
:Three^(a
;wo^(a
5mblingFee(aa
6e(aaaaaa
8b
7!(b
?eb
7Banker(b
7CloneFee(a
8onfig&(b
9st(a
7GiftOnce?(a
7Host!(b
7IdCntr(a
7Logic&(b
7On(f
9off(a
7Paused(f
8rize(aa
7Result(a
?e
>dmm
8ules(aaaa
9nning(f
7Start@(a
<edDividendPercentage(a
=rDividendPercentage(a
:te(f
<FCF(f
=usion(f
7;Flag(bf
7Vars(aaaaa
7s(b
5s(a
64$(a
6?(a
6ForCLI(a
;OUD(a
9DCN(a
9FLKD(a
9GR(a
9KWH(a
9Oraclize(aaa
AdQuery(i
9PBTT(a
6In$s(a
6Limit(a
;s(aa
6^(a
<e
;Limit(a
Ab
;PctOfBetValue(a
6RefundForClaimConsola~PrizeLoot(a
DLoot(a
HWithConsola~Prize(a
8q(a
8serve(a
8wardPercent(a
6Usage(<bytes4[5]>M
<a
6on(if
5tekeeper!(b
7way(b
4em(b
6PerMiner(a
7rice(a
5n0Limit
7Profit(a
7Step(a
6@(a
6aroDevMultisig(b
6der(ec
6e(aj
7&!(b
7Kind(e
7Lab(b
7Manager(b
8ixer!(b
7Science!(b
<tist(bf
7rateAddr(b
:ionSeasonController(a
:or!(b
7sMarket!(b
8is(b
:!(ba
AArray(g
:Caller!(b
:$(b
6ome(aa
5tFree(f
4idMax(e
5ftMode(f
7o!(b
5veBirthType(f
7nName(ac
5zerItems&(b
4lobalComposi~Fee(a
9Delega~(b
9Lock(f
9Multisig|(b
9@Vault(a
:oken;Lock(f
4oal(a
8cccc
7Achieved(f
7ETH(a
7Failed(ad
7Reached
7Succeeded(ad
5d(b
5ldBought(a
7CertVerifier(c
8ontract(b
?!(b
7Fee!(b
7Migrated(bfc
7^(a
7Reward(a
7enCard$(a
7mintFeeAccount(c
;Team!(b
5od(da
:a
5v(b
6ernor(b
4randFactory(b
7tEnable(f
8VestedEDEX&(b
8sUnlock(af
5een$(<GSI$>
>b
7ting(c
6yGreen^(e
7$(<GSI$>
=b
5oupBounty(ga
8Cap(ga
8Winner(ah
6wCost(a
7th(i
9Bump(a
9$sPercent(a
?|(b
4uaranteed!(ba
7dianRune(aa
;Sale(aa
;Vend(aa
4ymTrainer(eieeeeee
3HBT(a
4GT(b
4KG^(a
4SShopSaleFee(a
4WCDeposit(ba
4alt(f
7Ico(f
7Purchase(f
7Sale(f
7ed(a
:f
5mmer(b
5nd(a
7ler(bf
5rdCap(a
<a
;b
:CHF(a
;rowdSale(a
:Dividends(a
:Ether(a
:ForRound(ea
:InCents(a
<Ether(a
:$(a
:USD(a
:Value(a
7Participa~Cap(a
7cap(a
8upFalse
:True
5sh(ac
9d
8bkd
8c
8d
9d
8kd
7Piture(ad
7es(ecccc
5tchDura~By@s(w
@MultiByGenera~(w
8@(la
8edEgg(ll
5vven(b
4eir(b
5lpCoin!(b
7Me$Parts(g
5ro&(b
7Data(akkiiill
7Genes(aa
7Name(ac
7$&(b
4gtRates(aaaaaa
4iddenCeilings(o
:urves(o
9Logic(b
5ghWater(a
7er^Percentage(a
5jack^(a
5nt(c
5t^(a
4mc!(b
4odlerStake(ba
9@(a
5ld(b
7Max(a
7@(a
7er(b
9?(a
9Group(ba
9Informa~(b
9sList(b
7ingPeriod(a
7s(gh
5me(c
7Adv(ac
5okOperator(b
?&(b
7able$!(b
5st(b
7Fee(a
7ingProfit!(b
5t|(b
<!(b
6wallet(b
5urlyRate(a
6se!(b
8Edge(a
=e
8Fee(a
8Info(dacd
5verText(y
5w(a
4umanityFund(b
4ydro&!(b
8StakingMinimum(a
8$!(b
3ICO(b
8a
7f
61Phase
62Phase
63Phase
64Phase
6!(b
6&(b
;oller(b
6Date(a
:s(aaaaaa
6End(a
9Date(a
9@(a
6Manager(b
6Params(aaa
>iiaaf
7hase
;(aaaa
7rice(a
;atDollar(a
6Ratio(a
7unning(f
6Spec(aaaaaaaaaaa
7tart(a
<f
;Date(a
;@(a
9tus(f
6$(b
6Week1Bonus(a
:2Bonus(a
:3Bonus(a
:4Bonus(a
6_&(b
6addr(bf
6by!(ba
6time(aa
4D(a
5_control(a
4EO!(ab
4FS(ba
4NCENTIVE_POOL_ADDR(b
4PFSHash(c
7Parameter(cc
4TO(b
5TMultiSig(b
4co(b
61$s(a
62$s(a
63$s(a
6!(b
7gent(bf
6BeginDate(a
6Cap(a
7lose@(a
7ontract(b
>!(b
6Dates(aa
>aaa
7iscountPercentages(eeee
6End(a
9Date(a
9@(a
6Finish(a
6HardCap(a
6LockUntil(a
6Owner(b
6Parameters(aaaa
@Set(f
8ymentStatus(f
7ercent(a
>e
7hase(aa
;1(aa
;2(aa
;3(aa
;4(aa
6Stage(a
9rt(aa
;Date(a
;@(a
9te(e
:us(a
6Tier(a
8meStartEnd(aa
7okenExchangeRate(a
;Supply(a
6|(b
6nRate(a
6sMinLimit(aa
7tart(f
4d(a
5Range(aa
5entity(abc
<bc
;Extended(fff
;Name(d
4gnoreRequestIds(oG
4mage(ac
9j
8BlurredAt(aa
8CurrentRegionId(aa
8Data(Qakh
=a
>kh
<Cloud(aac
<Length(akk
9escriptor(ak
8Hash(ac
9eight(ak
8Owner(Qab
>ab
8PartsCount(ak
8RegionId(aa
8Width(ak
5balanceStepFunc~(bBBBB
5mediateAllowancePercentage(e
6utableOwnership(b
5pactRegistry(b
6lementa~(b
6ortFee(ba
9er
;Bank
4nactive
:ityReleasePeriod(a
5creaseK(a
6ubator&(b
5dex(a
6ividualCaps(<PresaleLib.Data storage>gh
Bgh
=MaxCap(a
>inCap(a
6ustry(c
5fla~Change(a
6o(aa
8c
9c
:c
8da
7AboveSpot(a
7Tier(c
8okenSilverRatio(c
7UrlPrefix(c
7rma~(c
@c
5itAttr(gaa
7ialAlloca~(goh
DLock(b
D@lock(bi
DUnlock(b
;pplica~!(b
:=(a
;uyout^(aa
:Dura~(a
:EnemyCombina~(<uint32[4]>
:GasForOraclize(a
:LockinDays(a
:Owner(ba
?AndName(d
?s(gh
:^(a
:Rate(a
:Settings(baaaa
:@
;okenValue(l
:Varibles(aaabbb
Ebbb
Cbb
5sertCar(daaakeeeee
6tant;(f
7ruc~s(c
;or(ca
5t(cm
7dm
6Value(cm
6erestAlloca~Percentage(aa
;FeePercent(a
;or(baa
8faceImplementer(bdb
8mediate(b
8nalInfo(baaaa
8val(a
;SchedulePresale(aaa
5v&(b
6adeAddr(b
6estStart(a
9ed(b
9mentCapIcoPhaseTwoPounds(i
=Gateway(b
9or(b
=a
;Data(baa
Ca
?AndIssueNew$(baaa
;Id(bd
;List(b
<ock(f
;Status(ba
;Whitelist(bf
;s(UgUa
=b
=hgha
<BatchSize(a
<Fee(a
6iteAdmin(b
9Collateralizer(b
4pfs(c
4sAdmin(bf
6ll;sLocked(f
8ocatingInterest(f
5Batch(f
6uyByAtom(an
8ing
5ChargingManagementFee(f
=$;Fee(f
7eckStage(f
5Frozen(f
5HiddenMessages(f
5MiningOpen(f
8ter(bf
5ProjectBonus(f
5RentByAtom(an
5SendingLocked(bf
5Testing(f
6okenCanBeBuy(f
?Sell(f
:Transac~Open(f
?ferOpen(f
6urnDataSaved(f
5suanceRatio(a
7eDividendReward(a
8r(b
;f
;i
4tem(eea
7ApproveForAll(af
8vailable(af
7&(b
7ForSale(aa
7LimitHolding(aa
7Name(ad
7Op~(ac
>baa
=s(baae
7PerPage(k
8rice(aa
7Registry(b
7StoppedStatus(f
7$(b
8ransferable(af
7sEC(b
3JOY$!(b
4ackpot
:(b
<a
:Completed
:Factor(a
:Minimum?(a
:$(baabaaa
:WinCount(a
=Percent(a
5deCoin(baf
;Zero(b
4ntBeneficiary(b
6Controller(b
6^(aaa
4oinDelta(a
5ule(b
4pycContact!(b
4udge(b
5risdica~(c
4ypcBonus(a
3KNCPerEthRate(a
6Rate(a
4WHForGas(a
4YC(gg
6!
8min(b
6Full(g
6Level(be
;sBulk(gp
7imited(g
7ockupIgnoring(f
6Manager(b
6Provider(b
6RequiredToReceiveFunds(f
@Send$s(f
6Verifica~&(b
4eepEth(f
5vin(a
5y(c
7ddj
6Value(bcc
4ingdomCrea~FeeWei(a
HRP(a
:Factory(<KingdomFactory>
Bb
ARP(<KingdomFactory>
5tty(b
8&!(b
:re!(b
8$!(b
4popArena&!(b
7Celeb&!(b
7Item&!(b
7io&!(b
4rsUsdRate(a
4tc!(b
?f
4yber&!(b
8Network(b
?!(b
?&(b
8Proxy(b
8Reserve(b
5c!(b
8min(b
6Certifier(b
6Hash(d
6Provider(b
6Whitelist(bf
3LKCExchangeRate(a
4LV_edit_1(c
=0(c
=1(c
=2(c
=3(c
=4(c
=5(c
=6(c
=7(c
=8(c
=9(c
<2(c
=0(c
=1(c
=2(c
=3(c
=4(c
=5(c
=6(c
=7(c
=8(c
=9(c
<3(c
=0(c
=1(c
=2(c
=3(c
=4(c
<4(c
<5(c
<6(c
<7(c
<8(c
<9(c
4PTargetPos~(a
4SEscrow&!(b
4andLimit
7^(aa
9oduc~Multiplier(b
KCCUser(db
7Slogan(ac
5rgeCapDelay(a
;WhitelistParticipant(ba
Os(ga
Rh
5st(ab
7Ac~(aae
7BattleResult(lk
7Crowdsale(b
7Edi~Of(aa
7JadeSave@(b
7Mint(ba
8ove@(k
7Posi~s
8rice(aa
7Tier(k
9mestamp(aa
8okenId(a
5terWhiteList(ga
7stEdi~(e
9ToNow(b
5unchDate(a
5wSupportProfit!(b
5yerParent(b
4eader(b
9board(aa
6seCard(eaa
7tFund(a
5dger(b
:em
9Value(cba
5ed(c
5ftICO$s(a
7over$sBuffer(a
5gal$(b
5ndFee(a
5thalBonusAtHits(a
5v1(a
62(a
6$(b
6el(a
8ExpGain(ei
8up(<uint8[4]>
4icenceShop^(Ia
:Teller^(Ia
8seSales&!(b
5mit(a
9ga
9kl
8Eth(a
8$(ba
=Purchase(aa
8ed(bf
8s(aa
<aaa
5neStart@(aa
6k(j
8y
5q^(a
6uid(f
;aj
9Pledging(b
9a~ThresholdPercent(a
9ityParams(aaaaaaaa
5stener(b
8r(b
7ingFeeInWei(a
7s(bb
;bb
5ve(f
7Tx
9(b
4oanProductActiveState(if
5calGame(kb
8RevenuPercent(a
7~(aa
<c
;Id(i
6k
7(a
8baa
9f
8cf
8dc
8f
8gh
7Account(b
@a
8ddress(bf
9min(bf
8fterManuallyMint(f
7ByPass(bf
>gf
7End@(a
7Fund(ba
;s(ga
7Jackpots(b
7Period(a
8os~(baaa
Ca
>1(baeaeaeaeae
8roductActiveState(if
7QtyToAllowTrading(a
7Rate(a
:io(aa
7@(a
8okenSupply(f
<s!(b
7Value(bac
7ed(a
:ba
:f
9AccountThresholdUsd(a
9Config(ghh
9Ratio(a
9State(f
9$!(b
>s(b
8nd1(a
:2(a
8r(b
7inManager!(b
7outPeriod(a
7s(gh
7up(b
9&(b
9List(ba
9_contributors(baa
:dakehus(baa
:investors(baa
:jiedians(baa
<shis(baa
:simus(baa
5g(b
6ic(b
8&(b
6o(ac
7^(a
7URL(c
5ng(b
7AirdropPicker(b
7termMinter(ba
5otboxFee(a
5sePercent(a
5ttery(b
:!(b
:Dura~(a
:Fee(a
:Op~s(eaka
:Parameters(aaaaf
:$sPercent(a
@|(b
5veUrl(c
5wLimit(a
6er^Percentage(a
5yalty|(b
4pFee(a
5IsStart(f
5MaxVolume(a
4tdParams(aaa
3MAXfinney(a
5YExchangeRate(a
4EAAttributes(aa"

end Listing
end EvmFlow
