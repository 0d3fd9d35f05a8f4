/-!
# Known signatures, part L
-/

namespace EvmFlow
namespace Listing

/-- Known signatures from `preicoSupply` to `returnFunds`. -/
def partL : String :=
"0preicoSupply
6$sPerEth
6USD
6_enddate
7holders?InvestWithBonus
7startdate
6branding|1Pct
6started
3liminaryGameResult(l
3mine
5um
7CarsBought(aa
7DomainK
8ragons(b
7Hold
7Mod
7Open
7Packs
<(a
7TotalSupplyForCar(aa
7Value
3nupAgreement
3p(be
4aidUnits
5ra~PeriodEquipmentTrainingFeeMultiplier
ATrainingFeeMultiplier
6e(a
9bb
;a
<j
7Auc~ForNonOGChain
7Contribu~(aaa
8rowdsale
7Dividends
7ForEarlyFinaliza~
:Refund
7LiquidityReserve
8ottery
7PreContribu~(aaa
7Refund
8oll(aa
>a
7ToBreed(afafa
4end(<!List.Data storage>b
Sb
9Data>b
?b
4opulate(b
4urchase(i
3register(b
6vills(b
3sale
7(b
9a
71
7Active
8ddTree(bb
:r
;ess
>?Holder
8llocate$s
>ion
A(bae
As
B(b
8mount
=ETH
=Remaining
7=s(b
?Locked
8onus
<!
CColdStorage
<Lock
<Tier2
@3
@4
=okens
BClaimed
BDistributed
8urnPaused
7Cap
:Reached
8losed
=Manually
;ing@
8oncluded
:tract
<ibute(ba
@ions(b
@orCount
:versionRate
7DateFinish
;Start
8eadline
9posited(b
8iscount
:t
7End
:Block
:Date
:@
>stamp
:ed
:s
;At
:time
8th
:?sProcessed
:erRaised
7Fail
9llBack(a
?Called
8emaleDiscount
=End
=Start
=$sLimit
8inalizeAgent
?d
:ish@
=ed
?At
8undingGoal
BReached
>TargetInEther
;sRaisedInWei
7GoalReached
9ing
8ranteesMap(b
BKeys(a
8uaranteedLimit(b
7Hardcap
7IndividualCap(b
9vestors(b
Ba
@ETH(b
8sRunning
7Limit
<(b
<Reached
<Units
7Made(ca
9rket
9xContribu~(b
:EtherCap
:Supply
:Value
8inPurchase
:Value
:t(ba
>a
7On
9going
8pen
;ing@
8wner
7PackLimit(a
;Sold(a
;age^(a
9rt
;icipa~(b
DMinimum
9used
8erEth
8iDiscount
9End
9Start
9$sLimit
8rice
9ocessed
8urchasesLoaded
7Rate
;(b
8emaining
7Sales
8old
;$s
8tart
<Block
<Date
<@
@stamp
<_6_December
<ed
>At
<sAt
9op_13_December
:rageVault
8upply
7$
<?(b
<=
<Crea~Cap
DRate
<Limit
<Rate
<Sold
=upply
<Vault
<s
=Distributed
=Issued
=Limit
=PerDollar
=Sold
A(b
9talNumber$Sold
<Wei
8ransfersPaused
7Unfreeze(a
9limitedStartBlock
E@
7Vesting(baaaaa
7|
8ei
:Contributed
:Limit
:Raised
:Sold
8hitelist(b
@Discount
@$sLimit
7_address
9lloca~
8end_block
9th_fund
8finish
8price_in_wei
8start_block
8tokens
7cap
8losing@
7deadline
7end@
7opening@
7sCap
8$^InWei
8tart@
4ell@r
7er
5rve$s(ba
8d$s
5tGymTrainer
4old
7Max
4s
5Button
5Fee
5_address
5ers(b
6s
4tige
3v(<!List.Data storage>b
6Data>b
4=
5lock
4&
6urse
4End@
4Hodlers
4Oracle
4RoundTweetId
4SeriesSelloutHours
4$!
5weet@
4XRPC$
4_hash
5week_ID
4iewStageEnd@
5ligedAddApproval(bba
;pprove(bba
:=Of(b
As(b
:Lock(ba
:SubApproval(bba
:UnLock(ba
5ous(a
8AirdropSurplus(b
8Burners
?(b
8&
@!
8Delegates
A(a
9istribu~
9rawingClosed
9ungeonId
8Entries(a
8Founders
@(a
8Hodlers(a
8Minters
?(b
8Owner
8Participants(a
:youtBlock
9eriodRate
9riceOf(a
9ublishedVersion
8RoundId
=Jackpot
=s
>(a
>Count
8Sender
9nailPot
9tage
=IsFinalized
;te
8$Vesting
8Update@
8Wei=
9ithdrawal
8_owner
8price
2iEtherReceived
3ce
5(a
7a
6c
6f
6k
50
51
6Of(a
6stWeek(a
52
6Of(a
6ndWeek(a
53
6rdWeek(a
54
55
5At(aa
7InitialAuc~(aa
5BeforeGoalReached
6ooks(bb
7x1
82
6yPeriod
5Callback(daf
6ents
6hange
;(aa
;Block
;Name
;d(aa
;r
7ibi
6laim
6ounter
6reatingChannel
DChanged(aa
5Decrase@2Ac~
9easeRate
A(a
6ivider
9sor(a
>a
5ETH
8USD
6UR
6th
8Per$
6xpira~BlockNumber
?Interval
5Factor
;A
;B
;C
6ci
6eed
9Source
6or(a
8BasePart
9uyingCostume
8Date(a
8Keys(aa
8MateAdvertisement
8Rect(aaaa
8SaleAdvertisement
9tage(e
8Verifica~InWei
5Guaranteed
5History(a
5ICO
6n$s
7Usd
7Wei
:(a
:PerSatoshi
7c
8rease
=PerPurchase
=_20_February
AJanuary
<ingRatio
:ment(e
>s(e
6sFrozen
7Stale
5LC
6eRT
6imit
7st(a
6ocked
5Model
6ultiplier
?(a
5NeedsUpdate
5Of(a
8c
8i
7AUnicornInFinney
8pisPerFund
7Beauty(a
7Element(a
>s(h
8thOnEUR
<USD
7Landmark(a
7Multiple(h
7OfficalCardSold
7Player(a
7Smart&
7Team(a
8icket
8oken
7reserva~s(b
6racle
;(b
5Pause
6erCoin
8Ether
8Message
?Changed(aa
8Stake
8Ticket
9oken
=(b
=AtCurrentTier
=InWei
8Unicorn
;t
8Wei
6oints(a
;Length
6reICO
8Sale
8sale
7ogression
5QuerySent
5RandomFight2Death
7te
6ound(e
:1
:2
:3
:4
5SelectFight2Death
7tter
6tage1
:2
:s
8lePeriod
8r3
94
95Now
9t
7ep1
92
93
94
95
96
97
98
9Dura~
5TLP1
82
6hresholds(a
6oBuyInFinney
7Spend(a
7ken
:(a
:SellWei
:ToCoin
:Wei
=PreICO
5USD
8cETH
6nits
6pdate!
<t
;Waiting@
;d(aac
<@
5ValidSeconds
6iew
5WithBonus
9Discount(aa
5_agent
6constant
>1
>2
6exponent
>1
>2
6in_wei
6per_eth
6start
6target
7oken
5greengrey
5of
5r
6s(a
5s
6(a
7i
6AreStale
6ToCommit(g
4ingPlan
7Strategy
?!
3maryGasLimit
7LedgerCount(c
=EntryForIndex(da
8isting
7Operator
8wner
7_wallet
4e
3ncipalsRecords(b
4t(a
6d
5Certificate(ccckc
5Money
3or$sSent
5ityCap
8Pass&!
8|
3vGoal
4Saled
4ateAllocated
8mount
7Bonus
8uyer
7Cap
8ontribu~
8rea~
9owdsale(ba
7Discount^
7End@
8therFunded
8ventActive
<$s
8xchangeRate
7FundEnabled
;Supply
;ingSupply
7HolderClaimed(b
7Investors(b
7Limit
9st(b
8ock!
;@
;ed?
7MaxEtherCap
8in
7OfferingCap
?ExchangeRate
?Percentage
?Supply
?$s
?|
7PlacementAllocating$
@Supply
8reICOBonusPercent
=FreeBonusPercent
=depositors(b
:Sale
>^
>Sold$s
>$=s(b
:sale
>Allocating$
>Supply
>$Reserva~(baa
>|
7Rate
8elease@
9servedUFT
7Sale
;(ba
;1Hardcap
;2Hardcap
;!
<mount
;Bonus
;Close@
<ontribu~(ba
;Date
;EndDate
>@
<therCap
@Raised
;Limit
=st
<ockEnd@
;MinEth
;^
;Rate
;SencPerMEth
<old$s
<tartDate
@@
;$
@s(ba
AAvailable
ASold
<ransfer(gh
;|
;s$sSold
8ell1!
<LockEnd@
<$
;2!
<LockEnd@
<$
8old
8tage
<$sSold
:rt
<@
8upply
7@
8oken
<Cap
9talSupply
8ransfer(ba
7|
8eiRaised
7_AddGameBar(accc
8DelGameBar(a
8SetPause(f
8UpdateGameBarLimit(aa
8addPermittedRoll(a
8delPermittedRoll(a
8getGameState
8kill
8profits
8rooms(d
8setBank!(b
;HouseEdge(a
;MaxMultiRolls(a
<inGamePlay?(a
>RollUnder(a
;OracleFee(a
;PauseState(f
;RandomAPIKey(c
DURL(c
D_extract(c
;maxBet(a
>Roll(a
<inBet(a
>Roll(a
8withdraw(ab
@All(b
@BankFunds(b
Ka
7sale!
;Ends
;Finalized
;Supply
;$s
;_beneficiary
<start_time
;whitelist(b
4iledged!
BBurnUnsoldCoins
7ge
9dAddr(b
:List(b
:;(bba
3ze
5?
5Breakdown(a
5Claimed
6ooldowns(a
5Deposit
5Fund
9Factor
9HWC
5Incr
5Money
:Asset
:Quantity
5Owner
5Pool
9Percent
5Referee
5Value
5Winners
<(a
7thdrawal
6on
5s
6(a
8b
6Awarded
2n(b
2o|
3babilities
=(a
:y
4e(b
3ceed
7KYC(b
7PreIcoTransac~s(gh
7s
5ss
7(a
8b
9a
8d
7Alloca~(ba
7BNBContribu~
8TCTransac~(jabr
8et(eaamdd
8uyRequestFiat(cabaa
7Contribu~
C(b
Eaa
Cs(ba
7Deposit
7EmergencyFundReleaseFinished
7Fee
8undingFailedFinished
>SuccessfulFinished
7Game(aa
7InitialDistribu~
9ternalRequest(cfaa
<val
7Markings(ba
8ilestoneFinished
8utuallyAgreedJobCancella~(qbbaaejj
8yRefund
9VestingRules
7OffChainPurchase(ba
:chainPayment(ba
?$Purchase(ba
:linePurchase(ba
8neCombat(ii
7Payment(<Micro|Lib.Micro|Storage storage>b
?aiia
:out
:roll(ba
8endingTickets
8resaleOrEarlyContributors(gh
9oposal(d
8urchase(aa
@b
@h
7Refunds
9quest(<RegisterRequest>
?aa
Aa
9serva~FundContribu~(baa
7Season(i
9llOrder(aa
;RequestFiat(aa
8tep
;s(aa
<ByStep(aa
7Transac~(jabr
7VestingRules(b
7WhenStop
8ithITG(ba
7_payment
7ed
9(l
9$s
:ransac~s(i
7ing(baaa
:Fee
:Quality(a
7or!
4laimAllInactive
8Death
8Inactive(e
4ure$s(b
3d
4(bdn
5dn
4$s(ba
4uce(a
8l
7Emeralds(ba
7UnitSeconds
7Wine
7dBronzeCaps
8Caps
8DiamondCaps
8GoldCaps
8SilverCaps
7r
8Statement(c
8s(b
6t1
8_luckybuyTracker
9pot
9sell
72
8_luckybuyTracker
9pot
9sell
73
8_luckybuyTracker
9pot
9sell
74
8_luckybuyTracker
9pot
9sell
7Accounts(a
?Length
7Id
8nfo(a
7Limits(d
9st(a
;ing(d
7Mappings(ba
7Opera~Endorsements(da
8wners(ba
7^s(d
7Structs(d
7Types(e
7ionCardIdRange
:Of(b
:UnitIdRange
>$&Count
Ks(a
7s(a
9b
9d
8Exported
8Shipped
8_price(a
3fessionalName
4ile(c
7s(b
5t
6(a
7b
62eggs
63eggs
65eggs
6Addr
:ess
6Container!
6Distribu~
B&
6FromCrash
6OrgPay
7wner
6Sharing
=&
6;@Span
6_per_token
6erole
6rate
6s
7(<bytes6>
8a
7LockedUntil
7Of(b
7RatePercent
7Sendable
:t
7Total
3gress
3hibitFreeze
3ject
7Active(a
8gent
7Buget(b
7Completed
9ntract
8reator
7Descrip~
8one
7Exists(b
7Failed
=(k
8oundersReserved
8undingFail
7Index(a
9fo(b
7Managers(a
8ember!
7Name
;Map(e
7Reserve
7Share
8torageVault
7$s
7|
8eight(a
8orkStarted
7_contract
8registry(a
8wallet
7opera~_beneficiary
7s
8(a
9b
9k
8Accts(a
8Count
3long
7(a
7BonusPreIco(a
7Crowdsale
7H(a
7PreIco(a
7ate
:(a
:&
9ionPermitted
7edDura~
3metheusShipMinted
;oldCount
:VoucherSoldCount
AsMinted
4ised$=
7e
7s(a
6or
6soryUnits
4o
5(b
6g
5Bonus
6un(b
5Code
9To&!(q
7unt
6reated
<Count
A(a
:ionLimit
=PlayerCount
6utieCreatedCount
5End@
6thCommission
5FishCommission
5Gen0
5Limit
5Map(d
7sterpiecesCreatedCount
6oney
5Pause
6urchase(ieeec
5$
:Controller
6ypeNum
5admin(b
5te(b
7rs(b
6ionAllocate(ba
9CommisionPercent
9IndexToClaimant(a
@Host(a
9Ratio
9sAvailable
:OfClaimant(b
<Host(b
:Used
6orSale
4pts(a
3of
5Addr
5Exists(c
5Failed(ba
>a
<f
5Ids(a
6mpl
5Link
5MultiSig
5OfConceptCap
7SMS
8alt(de
8hit
8ms
7Work(a
5Set
6torage_IPFS
5$
:sAllocated
6ype_Android
:Ledger
:NONE
;ative
:TLSNotary
5VerifyFailed
5_of_public_key
C1
C2
5s(a
7d
3pExists(d
4erties(b
;k
7yIdToAuc~(a
<Escrow(a
<Owner(a
9ndexToApproved(a
?Data(a
?Owner(a
4or~
5sal(a
9ba
;b
;c
8?
9uthor
9vatar(d
8Block
8CensorshipFee
9hecked(baa
9ontract
9reate@(a
8Deposit
:stina~
8Exists(a
:pireAt(da
8InProgress
:fos(b
8List!(a
8Nonce
8Owner(a
8Status(d
>es(a
8Text
<(a
8s
9(a
;b
:b
;aa
:d
9ByShareholder
F(ba
9Cnt
9Number
9Rank
9Weights(a
6e(adbbb
8b
9aj
9ccccaaaa
=caaaa
9dgo
9ja
8ccc
8dc
7Alloca~(bba
7Bounty;(ba
8urning(a
7ChangeOwner(b
8ompanyAlloca~(ba
9ntribu~Reward(bdmMbb
9unt
7EmergencyWithdrawal(b
8xternal(b
7Founda~;(b
7Milestones(j
9nt(a
<ba
;Locked(ba
;ing(a
7NewMoon(be
:Notary(b
:Owner(b
7Offering&(bb
8wner(b
<ship(b
7PartnerAlloca~(ba
9useChange(f
8latformWithdrawal(b
8roper(j
:xy(j
8urge(bd
7Reparameteriza~(ca
9verse(cb
9wardsWithdrawal(b
7Shutdown(a
7TeamWithdrawal(b
9mplate(bb
8o(b
9kenOwner(b
8ransfer(b
8x(b
;a
7Upgrade(b
7Version(b
8oter(d
7_beneficiary(b
7dController
BPendingUntil
8Implementa~
8Milestones
9oons(b
=Index(a
8Owner
8Purges(b
8RecoveryKey
CPendingUntil
8@stamp
9otal
8UserKey
?PendingUntil
8Version
9oters(b
8Withdrawal
8_beneficiary
7r
7s(a
4s
3se
5(a
4pectors_dev_alloca~
<team
6ra$
=!
3tect
7!(bf
7Kingdom
7ed=(bb
9Denomina~OfOrigin
9Reclaim(ba
9Supply
9;(bad
AToMint(ad
9Unlock(bac
7ion(i
:^
4oCount
5IdToCount(k
5col
8FeeRecipient
8Version
?ST(d
3vas(b
7d
4eIt(bc
9d
8c
8d
5n!(bf
=eList(gf
4ideAccess(be
7Dividend(a
7Transac~Feedback(aed
7_eth
7r
81
82
8Completed
:ntract
8Disputed
8Locked
8Registry
@(b
8Type
8s(b
3xiedContribu~(b
6s(b
9a
8d
7Count(b
4y
5(b
7ej
7j
5AccountingCrea~(baa
6pprove(bad
@b
6ssert(bej
5Buy(db
8$s(b
5Claim$s(b
6ontract
5EnableRefunds
6xchange(bacd
5Factory
6or(ba
:b
5GetRefund
5IncreaseWithdrawalChunk
5List
9(a
5Management!
6ergeMint(adg
6int(ad
:ba
9$s(bad
5Owner
5Payment(b
<s(b
6urchase(b
=s(d
5SetCosigner!(bd
5TakeEtherBack(b
6ransfer(bba
=FromToICAPWithReference(bdac
Yb
AWithReference(bbadc
Tb
=ToICAPWithReference(dac
=WithReference(badc
Ob
6ype
5Upgrade(bbj
5Voting&
5Withdraw(b
6orking
5_contribu~(b
5deposit
2uneInvestors(aa
2vd
4|
1tToPtwo
2c_addr
4balance(b
2xHead
3Tail
1ubCount
3End
3KeyToBitcoin!(jf
8Ethereum!(j
3addr
3key(d
6s1
8(a
72
8(a
3licAllocating$
>on
@Enabled
@$s
7mount
6Battlepm1
>2
7uy(baaaddd
9CompleteSets(ba
EWithCash(ba
9WithLimit(baaaddda
6CreateOrder(eaabaddd
6End
9@
7ventActive
;$s
6FillBestOrder(ebaaad
CWithLimit(ebaaada
:Order(dad
7undingPersonalEthLimit
=WhiteList(b
6GetAdvertisement(a
:sset(aa
9=(b
9Deposit(a
9Element(aaa
@Offer(aaa
:xchangeRate
9Note(lI
9Participant(aa
Ds(a
9Round
9State
=us
9UserHistory(ba
=Info(b
6Key(a
9Size
9Verify(aaa
9s
:(b
;d
6LockEnd
6Min
6OfferingExchangeRate
>Holder
>Plans(a
>$s
>|
6Presale
8ivateSale|
6Rate
7elease
8served!
>$
9olver
6Sale
:!
;mount
:Cap
:End
;therRaised
:Mode
:Raised
:SencPerMEth
;old$s
;tart
?ed
;upply
:$^
?sAvailable
@Purchased
;ransfer(gh
:|s(a
:sSpecialUsers(b
7ell
:(baaaddd
;k
:CompleteSets(ba
FWithCash(ba
:LockEnd@
:$
:WithLimit(baaaddda
7oftCapReached
7tart
;RegularPhase
;@
7upply
6TGEEndBlock@Stamp
9StartBlock@Stamp
7oken
;Cap
;s
<Available
7rade(ebaaaddd
;WithLimit(ebaaaddda
9nsfer$(gh
>sEnabled
6Withdraw
6a~Count(b
;FeeInWei
;s(d
6battlestart
6ity!
9Funds
6lyDistributedParts
6sale$s
:_address
:sCap
;$^InWei
;end@
;tart@
:whitelist(b
5sh(X
8acccf
8bdd
8c
9c
9da
8d
7Bytes(cj
7Condi~s(c
:tractTemplate(acbcaaaaaab
7EtherBox(dca
8xecu~(cccccc
9tension(cccec
7For(Xb
7GraduatingClass(c
7LawyersInAttendance(c
7Owner
7Result(ic
7edCountOf(b
9Register(a
9$OfOwnerByIndex(ba
9WinningScoreThreshold
8r
9!
9Cut
9Registry
7ier
8ngOwner
3s(a
4aleCap
7Deadline
7Rate
2ll(ba
6n
4Addr
4Back(b
:ba
6lance
4DividendPayment(a
4Entry(a
5therFrom&
EAfterICO
JPreICOPrivate
Qublic
4FromCircula~(e
5unds
4Out(ba
4RipCord
5ow(a
4Shares(b
4TheLever
5okens
:(b
:Back
2nish(bba
3kBids
8(a
4IndexTo!
B(a
4NoLongerForSale(a
4sOfferedForSale
C(a
5RemainingToAssign
3t?
4er!
6Waiting
2ppets(a
4ySports
2rch(bba
5asable
;$s
7e
8(Qa
9a
:<bytes7>
:a
;abj
;b
<b
:b
:cfa
:d
9b
:a
;a
:b
9c
9da
:dd
9i
9kb
9n
9u
8Accessory(aaca
9d(aacc
<cc
:min
:v(aacc
9ppartment(a
9reaWithData(<uint24[]><uint24[]>hcca
:my(a
:ray(a
9sQualifiedPartner
:set(a
9ttack
9uthorizer
8=s(b
9ronze
9uilding
@(aaa
8CRS(a
9allbackOnAccept(agh
HAndDistribute(agh
:p
:rAdv(acc
;Card(a
;d(aa
=l
<inal
;s(aaf
9enturion(a
9ity(a
9offee
:llectible(a
:mpany(a
@df
?Adv(acc
?Card(a
:ntract
:stEther(a
<Fiat(a
:unt
=er
=ry(a
9rate
=s(e
:yptoGamer(a
8Defense
9igitalArtSellingItem(a
8ETH
9gg
;(lk
9nable
:d@
9state(a
9xactWolk(a
:istent(a
8Finished
9or(b
=da
=kb
<nb
9rom@(a
8Game
9enes(aaf
9old
8Halted
9ero(a
<ForEth(a
8Kingdom(ccf
Cb
8Land
<(aaa
<WithCC(eda
9eader(a
9icense(d
:mit
9og(b
8MIT(b
9akeAdv(acc
<Card(a
:p(b
9embership(b
Db
:tal(aa
9ysteriousEmblem
8New(acca
9o
:tes(a
8Parrot(a
9eriod
9hoenix(a
9ixel(aaa
9lanet(a
;yer(a
9okemon(a
:p(a
9roduct(da
8Rate
9ecords(b
@k
?Num
;t(aaaah
9ound
8Seconds
9hare(a
=sOfArtwork(a
:ow(a
9ilver
9oldiers(aa
9take
;rtBlock
=@
9upernova(ba
8ThemedSpinner(ca
9icket(N
?a
@b
?kN
>s(h
?WithReferral(ha
:mestamp
9o(b
:ken
=(a
=Pointer
=s
>(b
>ERC20(a
>PreSale(b
:pCompany(df
:wn(a
9rophy(a
8UniqueSpinner(c
9pAndSpend(aad
8VideoGame(a
AItem(a
:llage(a
8Weapons(aaaa
9haleCard
9ithBTC(baa
<Dai(aaaabj
<ETH(b
=th
?(a
Aaabj
?er(a
<Fiat(a
<Index(aa
<Promoter(bb
<$(a
9olk
<(b
:nder(a
8_address
9dates(b
9tokens
9with_dai(abaaabj
>eth(abaaabj
8d(b
:n
9?(b
?By(b
?Of(b
9Coins
;unt
9Datas(b
9Grapes(b
9Ticket(b
:oken=Of(b
>s(b
?Raised
EDuringPresale
9|s(a
9_snt
=(b
:tokens
8r!es(a
9Count
9Funded(b
9List(a
9Mapping(b
9WhiteList(b
9s(b
8s(a
:b
;a
9Count
7ingAllowed
:Buyer(b
5esedEggs(k
3e=Of(b
3geAccount(b
6ddress
5Informa~(a
5Upgrade
5Voter(ba
3pose
7WeiRate
3seExchange
2sh(<CLL>af
:mf
5ba
6n
5dcj
4AllRemain$(b
7oca~(ba
5ngelInvestmentData(ba
5tom(leeeillnni
4Byte(d
4Cap(a
5ity
5oin(abc
4Data
5ividendPayment(aaa
CTo!es(ag
<s(b
4ICO(a
5ssuer(b
:s(g
4NodeGroup(ak
4Owned$(ba
4Record(b
4Status(caa0
4Term(c
8s(<tuple[]>
5oApproved(be
6kenId(a
4erTracker_
6s_(b
2t(<ContentUtils.ContentMapping storage>cca
4ac
6c
4baaaa
5cc
4c
4j
3BtcWithStc(aadaaaadde
<o(aadaaaadde
5oWithStc(aadaaaadde
<o(aadaaaadde
3CompanyOnsale(da
3Deed(daddac
3Ether
3ForExchange(a
3Hash
7es(a
4ere
3IdentityProvider(bc
4ntoPackage(aab
3MatingRequest(aa
4essage(c
3On(aa
8b
5Auc~(aaaa
5InitialSale(a
5Sale(aa
<a
4wner(dabfc
3SaleRequest(aa
5veData(bc
<c
4mart&OnSale(f
4tcWithBtc(aadaaaadde
<o(aadaaaadde
5oWithBtc(aadaaaadde
<o(aadaaaadde
3Title(dcddfc
4oken
4reeOnSale(aa
3_purchase_for(abbaaabj
4transfer(bbbaf
3sAssigned(d
4Exercised(d
4Owned(db
4Sold(db
2zzle(bd
9d
6IdOwner(e
8^(e
1veBattleFee
2pContenderRemoved(a
Di
3Finished(ha
3MaxIncentiveCut
3OwnerCut
3Paused
3Queue(a
8Size
2t$s
3_inv_Pool
4plmt_max_in_Wei
9remaining_in_Wei
9set
9token_generated
1win
2n
1ylonSelled
2r=Of(b
3amid
0q
12
1ID(d
1bxSource$
1nt10k
1shdrop(ga
9h
1tAccount
2yInitiators
3Validators
1uadrupler
3ker(b
3lified!(b
9Partners(b
8sAsCommunityBallot(b
3ntityFactor
8HeldInCustodyOfExchange(b
3rantine!(b
4ryCities(a
4ter1
72
73
7First
8ourth
7Second
7Third
7lyWithdrawable
7s
3ter1
62
63
64
2een
5Prestige
3ried(a
4y
5(<GroveLib.Index storage>Im
6ZIm
6acc
9a
6baa<func~>
6cc
6dIm
7c
51(acc
:a
7cc
6_fnc(acc<func~>a
7withGasLimit(acca
52(accc
;a
7ccc
6_fnc(accc<func~>a
7withGasLimit(accca
5=(b
6etUnit
5Chibi(a
:Add(a
6ost
9(g
6reatureOwner
6urrent&Funds
<Tradable^
5EOSCrowdsaleKey(b
8$=(b
6RC20(b
6arnings(b
5FusionData(a
?_ext(a
5GameHistory(a
@Length
9Status(a
5Ids(a
6tems(da<bool[6]>f
5Locked$s(b
5N(acj
:a
7cj
6TVUs(aa
6_fnc(acj<func~>a
7withGasLimit(acja
6ow
5Player(i
;Type(<uint32[11]>
;UnAwakeSkillIds(<uint32[11]>
6ublished&Template(a
5SpecialRateFor!(b
5To!(d
7ken(a
:Grant(b
6ype
5User&(ba
ACount(b
5VestingRemain(aa
5Waiting@
@Buffer
6inner(c
7thdrawed(a
5_withGasLimit(acca
5jingzhi(ac
3s~
8HasBeenAsked(d
8Str
8s(a
:d
3ue(a
5Count
5Front
5Length
5Mode
5Payment(j
5Size
5d?
2ick
52
5AuditEthCredited(a
:FiatDelivered(a
5Buy(a
8Path(a
5Change(gaa
6onvert(gaa
<Prioritized(gaaaaedd
Ledd
<er
5SetStarterClasses
5Trade(bba
5Withdraw
3tBattle(a
4FromAirdrops
2orum
3ta
5Of(b
5Used(b
4e(bab
5Ask
5Bid
0r
10
11
25Backers
12
2VaultAddr
19k!
1ID2Round_(a
3_
2d
2nFp
1No
1SetA(b
4E(b
1abbitBreedCount(i
6Mother(ia
6Sire^(i
6ToApproved(a
8Owner(i
6s(a
2ce
4(i
4BaseStats(a
5et(e
4Count
4DistCon
4Id
4Num
4Out(a
4Registra~(ab
4ToBaseStats(a
4_start_block
4r_index
;(b
5s
6(a
4s(a
5Info(aeb
2dd(nn
3tokenSupply
2fEnd
3fle(a
6!(a
6Draw
6Id
6Limit
6Reward?
6State
6$Reward
6_addr
7balance
2in(ga
6h
4drop!
3seApprovalEvent(bba
5By
5Cap(a
:a
5Day1
82
83
5Emergency(f
5InitialSupply(a
5Jackpot
5MaxNumInterests(a
5PreSale
5Ratio
5Slammer(ddd
6upply(a
5;Event(bba
7ivialThreshold(a
5d
6(e
6?
<s(a
6By!(b
6ETH
7th
9Amt
9er
;s
6ForEther
7romFiat
:$
?(b
7unding
6IcoValue
7nPresale
6OBR
6PreSaleUSD
6Sale1USD
:2USD
6USD
9(a
6Wei
5ethamount
5max(b
5vote
2ke
4!
4EventPlaceholder!
3ugoPresale!
2n
3d
4(a
6a
7a
5b
5ee
5kk
41
42
4&
4Int(aa
4Nonce
4_num
4ao
6!
4num
4om
6(a
8a
9b
8e
7ee
7l
8e
6256
68(ee
6A
7PI_url
7ddress
6B
7lockStart(a
6C
7lassIds(a
7ount
6DS_getSessionPubKeyHash
9sessionPubKeysHash
K(a
9updateSessionPubKeysHash(o
6End
6Fight2Death&
6Gen(aa
:b
;e
:da
9erateMethod
:s
6Hashes(a
6Jackpot
=(idi
6Next(aa
7umber
<(a
<Gen(aa
<Income
<s(a
>b
6OrgAPIKey
6Player
6QueryID
6Seed
7kinAppearance
D(a
Fn
7ource
6Team
7icket
6_callback(d
7num
:ber
6ize
6ness
3geETH?
5OfBets(aa
3k
4Cost_(a
4Data&
5own(aa
4Numbers_
4Of(a
7j
4Players_(a
4Share(a
4To!(a
6kens(a
4ed
4s(a
5Count
3som
2p
3(d
2re
4(a
4Array(a
4IdRange
4Start^
>(a
3ityMultiplier
2te
4(a
6ac
6bba
5bba
6m
40
41
50
42
43
44
45
48_end_at
4A
5fterValida~(af
5ge
5irDrop
5ngel
9Day
<End
9sDay
=End
4B
5TCxETH
5ase
5oundaries(a
4C
5ent
5hange(a
5oefficient
6ntract
4Decimals
4ETHUSD
7_BCDT
8ROK
5arlyStage1
>2
>3
>4
5th
4Fee
7sDenominator
8Numerator
5inalStage1
>2
6rstRound
9Week
=End
5or(baaa
7Days(a
7MainICO
7OnePTM(a
7Phase1
<2
<3
8reICO
4Hard
4ICO
5co
7MainSale
7PreICO
5nSpecificTier(a
4LastWeek
<End
5evels(a
5imiter_
5oss
4Main
6p(a
4Of(b
6Charging(b
6EmissionPerYear
7ther
6Parking(b
6SpecificTier(a
5racle
4PerEth
:Phase1
?2
?3
7HourInWei
7OneEther
7Wei
:FirstPhase
:SecondPhase
5re
7ICO
:End
8co
7Sale
;Stage
7sale
6ivateSaleStage
6ovider
5ublicSale
>Stage
4RatioCVSThreshold
5ound1
92
9Seed
4Sale
5econdRound
:Tier
:Week
>End
6edStage
6tter
5oft
5tage1
92
93
4T4T
5hirdRound
9Week
=End
5ier2
83
84
8Higher
8Normal
5oEther
4USD
7cETH
4Waiting
;End
5in
6thBonus
4_BTCUSD
5ETHUSD
5toCap
7Target
4boc
4s
5(a
6b
6d
6e
3ing&!
6List
6Of(k
6s(d
4o
5(a
5Denominator
5Update@
5s(a
2wApprove(bd
3Buy(d
3DetailsOf(dd
3ManuallyMint$s(ba
3NameOf(b
3OwnerOf(d
3Register(d
3SendEther(d
5tAttribute(ddj
6^(da
3$Supply
4ransfer(bd
;From(bbd
3UseName(d
3Votes
8(b
3WipeAttributes(do
1b(b
2Informa~Store
1c(b
2n
3Fund
7Deposit
1dCollector!
2iv(aa
5nn
1eActivate
2Cap(a
3laim=
7IFS(b
3ommentReward
?Pool
2Fund
6ByOther(b
6ing
2Initialize(bb
2LoadXaddr(ba
>a
7id
9(aa
<a
7name(da
>a
2Name(cc
2RollMove(aaa
2StartPreIco
2TweetReward
=Pool
2achGoal
5ed
4t(<Thing>
6b
5ions(a
6vate
:(b
:_trading
3d
4(c
5dd
5j
4!(b
5llFrzAcc
7Users
5nalyticsMap
4Charity!
5ompany(e
4FromCart(a
=ba
4GlobalPurchasedToday
4ImbalanceStepFunc~s(bb
4Log(a
6veStory(q
4MarketplaceConfigs
5ulti(do
4PaymentChannels
5urchaseAtIndex(a
4QtyStepFunc~s(bb
4Rate(c
4Sell$?
4Team(d
8ByIndex(a
5otalNumberOfPurchases
AUserPurchases(b
4UserPurchaseAtIndex(ba
@dToday(b
4ValidDate(e
4_collectors_addresses
7nfig
5demurrage_config_underlying
6gx_inventory_balance_ng
5max_dgx_available_daily
5price_floor
6urchase_at_index(a
5recast_config
5supply
5total_global_purchased_today
;number_of_purchases
Euser_purchases(b
;purchased_today(b
6ransfer_config
5user(b
9_daily_limit(b
:purchase_at_index(ba
4ing
7Register(ba
7_card_at(e
=count
=upright_at(e
7s
8(b
4y
5(a
5Oracles
5Tobreed(afaf
7kens(b
3lDevReward
=Weight
5ividends(b
4EtherCapHash
4Reserve
4SupplyWeight
4Unicorn!
4VotedSupply
4ityID
7check
5zedETH(b
8$=(b
4locate(a
3p(b
4Farm
8(b
3son
6ableDiffInBps(b
4signModerator(b
2b
3alance
9(bba
9Get$sToSellAndBuy
4telvlEconomy(ccccc
3irthAxie(aa
3ond(a
6FromUnbonded(ba
3rand(cc
3uy(a
5Inform@(b
5Started
6um(b
2calcFlags
6$^
6ulate(b
;$sToBuyAfterSale(ah
5l
6(ac
6Percent
6VoteToFreezeFund
3eiptUsed(bba
7ors(a
5vable(b
6e
7(baj
9ew
7AirDrop
8pproval(ba
Bb
Cd
Cj
Bj
Abaj
Aibj
Ambj
8ssets(a
8uc~(baaa
7BTC(bcac
8alanceUpdate(b
8onus
8tc^(a
7CreateAuc~(bbaaa
DFromArray(bbhaa
7Deposit
>(aa
8ividends
@(a
8ona~
7ETH(b
8th
:^(a
:er
<AndData(j
<FromForeground!(bbab
@Game!
7Fee
:s
8unds
<(ba
=e
7ICOcoins(aa
8nitialFunds
7Locked?(ba
7Payment(be
Ae
>ForGoodsSoldEarly
AOraclize
8layerInfo(abda
Fe
=NameList(ad
8urchase(7a
@<DirectCrowdsaleLib.DirectCrowdsaleStorage storage>a
7Refund(<PresaleLib.Data storage>
7$(ba
?b
@j
?j
<ByClientAccount(cab
<Loot(aaaaaaedd
<s
=(a
?a
8ransfer(a
@babj
?Ownership
7Verifica~(aaaf
7WithData(j
7d(b
:a
9l
8CWC(ba
;return(ba
9ount
8DETreturn(ba
9ividends
8ETH
9th
;er
=(b
?a
=From(b
8From(b
8Sta(a
;?
8$Of(b
=s(b
@abj
:tal
8UETreturn(ba
8Wais
9ei
;(ba
;Cap
;Min
8_ethers(b
9tokens
9wei
<_with_bonus
7r
81
82
83
8Addr
<ess
?es(a
8&!
8One
8Set?Required(a
8Three
9wo
8Vestings(bb
8Withdraw
8s(a
9Count
6ing!
4ntActivity(a
>Idx
6Block(b
7uyers(a
6Players(a
=Back
=Front
6Winners
9s(a
6lyEndedGames(a
8_added_address
3hallengePossible
5rgeDeposit
8Robot(a
3ieveEscrow;(ba
7Funds
7Payout(ab
7Reloca~(ba
7Vote(bd
7rList(a
4pient
91
92
93
9Container
9ETH
<(b
:xtraMIT
A(b
9MIT
<(b
9Percents(a
9String
9ToGiftIds(ba
9VIP
<(b
9s(a
:Map(d
3laim
7(b
9a
7ChildOwnership(b
8ontract(b
?$s
<ibu~(b
CWithInterest(b
7Dividend(a
7ERC20(b
>a
8th(a
:er
<(b
<Deadline
8xpiredSwap(dd
Bs(dd
7Fund(b
;Multiple(g
;s
7NtvuEther(e
7Opera~s(a
8wnership
7ParsecCredit
8eriod
7ResourceDeposits(b
7Started
7$
<(b
<Ownership
<s
=(a
:ien(bba
7UnwantedGift
7_art_token
7ableOwner
4ear(baaaaf
7ed(b
3ommendPaused
:ropor~
9ed^(k
6it(a
5puteAccountLastAverage=(b
9LastAverage=
K(b
4ncilia~Date
BSet
5fig(cc
4rd
6(a
7b
8a
8b
7c
6!
6CommissionEarned(a
8ntract
6Deal(abiifa
:CancelReason(abiiac
:RefundReason(abiiac
8posit(a
6EndedGame(a
6FillOrder(daa
6HighScore(ab
6Id(b
7mbalance(bmaa
7nfo(dac
6Log(abaaee
6Name
:Count
7r
7um
6OffChainContribute(aba
9chainPurchase(baac
6Payment(aaa
7resalePurchase(ba
6Sale(aa
7enderIfNecessary
7old^(a
7ystemOnSale$(a
6Visit(bc
6Win(aa
8thdraw(aba
?b
6_human_readable_blockhash
6edCoinSupplyForRound(a
6ing(ba
6s(a
8b
8d
4ver
7(a
8b
9b
8d
9edd
9j
7Account(bb
8ddr(dedd
8ll
:Eth
8ndSetSecretHash(cd
7ERC20$_SendbyMistake(b
As(ba
8TH_SendbyMistake
8ther
<s
7FailedLock
8unds
<(a
7LeftoversICO
@PreICO
8ost(ba
=b
>a
;Eth(ba
7PreSigned(jsbajaa
@Hash(bsbaaa
7RevokeHash(jja
7Signer(dj
8ouls(ghh
8tockKey(X
7$(b
<s
=(a
>b
?a
?ba
=To(ba
7UnawardedMILs
8ser(bbaedd
7Warriors(hg
7_unclaimed_bets
7able(b
7ed(a
9Index(b
7y
8(a
9bba
9cb
8AfterPeriod
9llowed
8Done
8Key
8ModeTrigger@
3ruitHero
;Fee
7Narco(acc
3s(b
4LookUpTable(a
3ursiveCalcula~
3vEthers(b
4ShrICO(baa
3ycle
7(a
8ba
7Appearance(<uint128[5]>a
On
7Dividend(a
7Reward(a
7Skin(Ma
7UnreceivedBonus(b
6ing(ba
2d
3Team!
7LockingPeriod
7Supply
3eem
6(a
8a
8b
8g
7b
8a
8ba
7c
8aaedd
7d
8b
9<bool[4]>
7j
6AdoptedAxies(baaa
7llOwnedAssets(a
6=Of(b
8ttleCrates
7eer(d
7onusLot
8ol
8unty(aaedd
6Cards(be
7oin(abf
:sToICO(a
8ntractSent$s(ba
6DaoBounty(db
6Egg(b
7ther
;(a
<db
;s(ba
7xcluded(d
?gh
8ternal$(db
6ForReportingParticipant
6Gift(cb
6Land(b
7evAndFeeByStaker
?ToStakers(g
7ottery(a
6Many(g
<h
6Native$(db
6OrSellCoinsToICO(aa
6Package(abao
8yout
7op(a
7reSale(b
8ice
8oposalFunds(d
6Rate
7eputa~(db
8store(ba
8ward(ba
<edAxies(ba
6ShardsIntoPending
:es
8ip(a
7take(gg
7urplusERC20(b
>TH
6Ticket(ab
7oken
;(a
=b
=i
;s
<(a
>ao
=b
>ba
@el
=d
6UTXO(deajjfedd
6Vestable$(b
6|
8rriors
7innings
8thdrawalCertificate(cabj
6_deposit(a
7withdraw(ba
6able=(b
:vilsinfo(b
6ed
8(a
9b
:a
9d
8Cards
8KarmaOf(c
8List(a
8Supply
8$s
4mp~
:!
:Burn(ba
:Count(b
:Fund
>Total
:Info(bl
:Locked(b
:Paused
<youts(a
;ercentageOfDistribu~
;rice
?Calculate(a
:|
4nom_dao_fund
7iValue
8nate
<(a
<dAllowed(bb
==s(b
4ployProduct(d
3istribute(g
<EthFor!es(ag
<$s(bb
BFor!es(ag
;ion
>@out
3uce(a
6CD(aa
8Fee(a
7redits(caeb
6Debt(bba
7iv_
6FiatCurrencyRaised(a
6LastWeekStake(ba
7ocking@(a
6Mul_
6PlayersJadeProduc~(ba
8edgedFees(a
6Reserves(a
6@
7otalSupply(a
6r
6time
2ederemPeriods(a
2f
3?(b
3FeeVal
3Led(b
3Percentage
=(b
3Share
3|(b
3_percent
3er(bb
550x50(b
5BenefitRate
5Tree(b
5alAddrByNum(bi
8irdrops$s!
7Bonus
7Count(b
7Fund=
BMap(b
7PayByNum(bi
:Count(b
7s(a
8MinInvestLimit
5edRateBonus
7s(b
6e
7Invita~s(b
7sCount(b
8RateBonus
6nce
9!es(da
9Codes(ba
9s(d
6rPercent
5ral
8(b
8!es(b
9mount
>Invest(b
8=(b
?Of(b
?_(b
9onus
=Calculate(aa
=Percent
=Rate
:unty$s!
8CodeAt(ba
<From!(b
:mmissionClaimed(b
BEarned(b
:ntracts(b
:unt
9redits(b
9ut
8Deposits(b
9iscountPercentage(b
:videndsOf(b
9one
8Fee_
8Index(a
8LinkMinimum
<Requirement
:st(b
8Minimum
8Name(c
8OwnerPercent
8Pay(a
9ercent
?OfTotal
?age
9ool
9rogram(gha
?Owner
?me|
;mille
8RateInvitee
Br
9egistra~(bb
8Sale(bb
<Count(b
9ent
9upply
8$|
=s(ba
>!
?llocated
?vailable
8_address
9fee
9ledger
?(b
8s
9(b
;a
9Of(b
9Vault_
8tokencontract
6ed
8(b
8BonusRate
9y(b
7r
8(b
8=Of(d
9onus(b
=1
=2
=Calculate(a
=Percent
=Rate
8Fee
8LinkedSales(d
8Of(b
8Percent
8Reward
8s(b
9Count
9List(a
3f(b
4alPool
4erBonus
;Func~(a
6alFee
8PreICOBonus(b
8sRateBonus
3ill
6(a
7b
8a
9c
7d
6=
6Funds
6Gift
6$s(a
7xFeeMinimum
6ers(b
4neCoke(a
8st
3lect(c
7Switch
7s(b
3reeze
5shActiveShareholdersArray
7=(b
7DirectSellParameter(a
7Games
7MonarchyGames
DReward
7PublicFundingPersonalEthLimit(a
D@(aa
7Rate(a
7erFee
3und
6(a
8a
8b
7b
8a
9a
9b
8b
8caaa
8g
7c
7d
8cb
7e
7g
8h
7rb
6Ac~(d
>a
7dveriser(a
;tiser(ba
7lienDeposit(b
8l
9(a
9Ether
:xternalPurchase(b
9Money
9owed
7mount
<(b
6BNBContributor
7alance(b
=s(g
7et(a
:b
7id(a
:d
7ounty(a
7yOwner(b
8$(a
6CancelledGame(iw
7laim!
;ed(b
7oin(b
8mpleted
8ntribu~
B(ba
?ors
8unt
7rowdsale
?Contributor
6DeadLine
:line
>@
7ura~
6ERC20(bba
7TH(a
:ba
7nabled
8dDate
9@
7rrCombat(a
7scrow(ba
7th(b
9IfKYCNotVerified(b
9er
;(a
<b
7verybody
7xternalPurchase(baa
6FailedAuc~?
7ees
7ish(ba
7lip(d
7or(a
:g
9All(aa
9ValidPartners(a
7romSeveral(ag
7unds(b
6GameAfterLongInactivity
8s
6ICO
9(b
7co
7gnoredBids(a
7nvestment(ba
<or(a
?b
>s
7sAvailable
6Loan
8ckDate
8g(b
8sersBids(a
9t$(bb
6Manager
=&!
9y(aa
;g
<h
:Transac~(h
7e
8thodABI
7oney(b
;ForUser(d
7ultipleUsers(g
7yIcoInvestment
6NonCompliant(b
9KYCInvestor
9WhitelistedPerson(b
6OIDIndex_
9s_(a
7f(b
7n
8Behalf(b
7pen
8~s(b
7therCrypto(bc
;$s(bb
7wner
6Partial(baaa
8used
8yment
=(abc
?iiac
>b
7ct
7ercent
9iodOver
<Start
7layer(b
<sAfterVeryLongGame
=InRoom(a
7oll
:Dates(a
8weredUp
7reICO
:co
9sale
=(ba
6Queue(a
6Request
=@lock
7ound
6Safe
8le
7ingleUser(b
7tart
;@
;ed
9te
:us
7ubmission(ba
8ccessful(bd
6T4T
7RA
7eam$s
7icket(ba
8me
7o(b
8Buyers
>IfSoftCapNotReached
8OtherProcess(ba
9wner(aa
8|(b
8ken
;(bba
<dcbb
;Holder
;s
<(b
>a
>b
?a
<For!(b
<Presale(g
<Sale(g
7ransac~(a
AAfterDisputeFee(a
FExpiry(a
LFee(a
AByMediator(a
KFee(a
AFee(a
As(a
;fer(ba
6UnclaimedEthers(a
9onfirmed
7ser(b
6Vault
7oting$s(bb
6|(b
7ei
9(ba
7henNotClosed(b
6_and_die
7claims(c
8ontract_eth_value
7deposits(c
7eth_value
7me
8y_ether
7window_end_block
6able
:(b
:Eth=Of(b
=er(b
6eadline
7d
8(b
8?(b
8Funding
8Investors(b
8Sat(b
8Wei
7r
6ing
9Complete
9Deadline
9Endtime
9Index
9Starttime
6s
7(a
8b
7Claimed
7Enabled
7Issued
7Open
7tate
6uingStartDate
4se!(b
6Kyc(b
6Work
2g
3Name
7(cb
3^
5oxy(b
:b
3Referrer(b
;s(g
3Spots(kkd
4tart@
5op@
3WL(ba
3adr(b
3enera~
4x
3ionAvailable(aa
6Exists(a
=k
6IndexToApproved(a
=Owner(a
6_bids(k
6s(k
7IsPurchased(a
4stHolderStep(beb
6Ico!(b
6Logo(bbc
6er
8(<bytes7>
9X
9a
:aa
;dcd
;eeeec
:b
9b
:<bytes32[5]>b
:a
;aa
;b
<b
:b
;ccoac
:c
;ac
;c
<accdbb
<cac
:d
:e<bytes32[5]>b
;dd
;kb
:f
9c
:b
;d
:c
;cc
;f
9d
:b
;ddd
:cbbb
:dc
;dc
9g
:h
9i
9rlj
8Account(q
9ddress(a
@b
@cb
@db
?es(g
:min(bc
9ffiliate(bc
Bghc
9gent
9ltPurchase(bcca
9ndActivateDevice(ddd
;Validate$(bccaa
:tique(d
9pp(db<bytes4[]>g
;Version(ddb<bytes4[]>g
;rove(dedd
9rbiter(aa
Baaa
:twork(bdaccabff
9s(bcacb
<db
:Seller(bcccc
;laven(c
:set(bduaccvh<bytes4[]>
9uditOutcome(bdf
=or(b
:th&(b
8Base(d
9eneficiaries(g
By(b
9ill(abbaaa
9roker
9urn(a
:yer(cc
@ccc
9yList(g
@f
@h
8Cabal(b
:llback(b
:ndidate(cc
9ert(dja
<WithID(djdad
<ifica~Db(b
9hain(ua
9ode(c
:in(ccb
:lor(ca
:mpany(bc
:nsumer(bi
;test
<ract(bdf
Acb
Bj
Adbrd
=ibu~(dba
AorPool(ba
9reatorsPools(ga
:owdsales(baa
9ustomer(bb
8DIN
;(b
;WithResolver(bb
;s(a
=ba
<WithResolver(bba
9ao(b
:ta
<(Oj
=Pj
9eal(bb
:vice(ddd
>s(ooo
9ocument(ccc
:main(uc
:na~(ba
9sp(be<bytes32[5]>
9ura~
8EOS!(c
9arlyContrib(bad
;nings(a
9ndpoint(c
9scrow(cc
9thHandle(db
;er=(b
=$(bf
9xchange(bbf<bytes4[]>
:port(uua
:ternal
@Bill(abbaaa
8Fee
9or(bbaaa
;Competi~(bbbbbaedd
Hedd
;ICO(ge
;Race(a
=ffle
A2
A3
;Voting
9und
8Guide(b
8HWCDep(c
;Wit(c
9andle(ddb
9older(dba
8Identity(bb
9mport(uua
9nNewMarketplace
:it(b
:vestorAccount(b
9tem(aaddd
8JuryMember(cb
8KYC(g
9ey(c
8License(cc
:stening
A(b
9oan(b
<Replace(ba
CDuplicated(baa
:ttery(a
8Mano&(bf
9eOnEther(c
<$(bac
9inted$(bc
9odule(b
9ultiple(gf
8Name(bc
=c
>b
?f
=d
<XID(ca
Bf
Ce
?FromDapp(bdaf
Le
=NAME(cb
=addr(cb
Df
Ee
AFromDapp(bdbf
Ne
=name(cd
Df
Ee
AFromDapp(bddf
Ne
9ewProduct(accc
<ubKeyForHash(<bytes28>c
Icc
;User(b
9ickname(c
9ode(aa
8Observer(b
9ffChainDona~(baacd
9pinion(ac
:~Pair(babaa
9utcome(ca
9wner(b
8Page(ucdc
:rticipant
:yment(ba
Ba
?s(ghh
9layerToBoard(a
9oA(cd33bbc
CI
>hhbb
:ol(caa
9refix(c
;sale(baaf
?Contributor(ba
:oducer(b
>t
;perty(ccccc
<osal(ah
;xy
9ubKey(bj
;lisher(b<bytes32[5]>
:rchase(dba
8Referral(b
Bb
8Sale(bb
9cheme(bdsb
9elf(d
;ler(b
?cc
9imple
:ster(b
9sp(bek
9tandard$(bce
8TXS(ab
9eam(cbcf
9icker(bccd
=ts(a
9oPool(b
:ken(b
?a
?c
@ca
Ba
=Payment(ba
8UBetCheck(bcccac
Fccacca
9ser(7b
=b
>a
?aaa
>bb
>c
>d
=c
=d
<Bonus(bbb
<IfNeeded(a
<On$(bbaac
Dc
<|(bi
<name(d
<s(7g
>g
?h
@hhh
8VIP
;(bba
9aria~(ab
9estingSchedule(baaaa
Ibaaaa
Na
GWithPercentage(bbaaaaa
9otingPrepareFailure
8|(b
>ForFeeSharing(b
9orkerAffecta~(bb
8XRateProvider(b
8ZTKCheck(bcccccacca
9one(u
8_claim(c
9map(b
9recurcively(<Member>a
8bot
9uyer(b
8ed
:(ab
;b
:!(a
Bb
Cf
;mount(b
;ssets(a
:Callbacks(b
:Deals
:Exchanges(a
:FundToRegistrants(b
:InDay(b
:Marriages(a
:Services(b
:Users
:_racers
6rantApprove(b
:Index
?(b
:Remove(b
:ToHopefulIds(b
<RegistrantIds(b
:s
;(a
;Paid
?(b
8r
9Auth
9Owner
9s(b
8~(bc
=ccc
=dab
<Bounty
<Deadline
>posit
<Fee
?_
<Period
<Rights(b
<@
<Vote(ba
<_fee
<s(a
>d
9or
;(b
7edCompanyNames(d
7ies(b
7os(d
7y
8(a
9b
:a
:bd
9d
:bb
8Admin
8&!
8ICAP
8Started
8_exec_id
9instance_info(d
3s(a
3ularCarsBought(aa
7Dona~s
@(a
7Hold
7MaxPerPerson
8inPerPerson
7Open
7Phase
7ReleasePeriod
7$MaxSales
<sSold(b
9talSupplyForCar(aa
8ransfer(dd
7_coins
6~sFulfilled
7or
9ApprovedKycProvider
9Status
9Whitelist(b
9s(b
2ignBlocks
3mburse
3nforcedWhitelist(b
4vest
8(ad
9b
8Affiliate
8ByProxy(b
8Dividend
@s
<es
8For(b
8Profit
8_color(aaa
?baaa
8ment_share
3ssueAsset(da
7Cert(djdadja
;WithID(djdadjdad
7dTransac~s
D(a
2ject
6(a
8ca
7b
8c
7cakba
6Alloca~(b
6Bid(ba
7ounty;(b
6Campaign(bc
7ompanyAlloca~(b
8ntribu~(b
Cd
6Erx20Transac~Request
7thTransac~Request
6Game(ba
6Hours
6InvestmentWithdrawal
6Many(g
7essage(ac
7ilestone(a
8nt(aa
6Ownership
6PartnerAlloca~(b
8useChange(f
8yment(a
>u
=s
7roposal(a
?b
>AsHost(a
9vider(b
6Request(a
>ba
6$s(ba
7ransfer(aa
6Upgrades
6edInvestmentWithdrawals(b
8Mint=(b
2koveDepositType(a
2lativeDateSave
4xFundingCap(aa
4y
5(ba
5BuyerCancel(qbbaknedd
5CMCT(bad
6all(bsj
6ontract!
5King&
5MetaTx(eddbj
Ab
5ReceiveApproval(bbaj
7lease(qbbaknedd
5SellerCancel(qbbaknedd
>notCancel(qbbaknedd
;RequestCancel(qbbaknedd
5edMessages(d
6r
7Name
3easable?
@(b
Bb
:=Of(b
;onus(b
6e
7(a
9a
:apaaacc
9f
8b
9a
9b
:a
;a
8c
8eb
8f
8gh
8iiir
8l
8qbbak
712m
88m
76m
7Account(b
8ddrs(b
9visor$s
>sAccount
?Team$s
@okens
8gent
<s(b
8ll
:(aa
:ETH
:Old=Of(g
;nceLock
:$s
:oca~(b
8mountPerDay
8ngelFirstVested
<Vested
8pprove(dedd
8rr
8ssets(a
8t(b
8uc~Ended(a
7Batch
<(g
8ets
8locks(b
8onus
<(ba
9unty$s
8udget(ba
8yStage(b
7CatIndexUpperBound(a
:s(iaac
8elebrity(a
8ontract
9reTeamAccount
9unt
8reatedCount
7Date
8eed(d
8ividendsRights(a
FForce(ba
8ragon$s
7EQUI$s(dedd
;WihtoutKYC
8TH
:(a
8njinTeam$s
8scrow(qbba
7Finaliza~Date
9rst
<Unlock
8or(b
<a
:EarlyInit(ga
Avestor(ba
;cosystem
:GoolaTeam
:Ico(ba
:Seed(ba
:TeamAndAdvisor(ba
;ransfer
:YoobaTeam
:eign$(ba
9underCoins
>$s
8und(b
;s
<(a
=b
<Notifica~(a
7Grant(bbf
7HTOSupply(b
8eldCoins
7ICO
8co$s
7Joy$
7Lock(b
;Account(b
<gencyLock1
E2
;Founda~
@ers1
C2
;$
;ed
==
D(b
Fa
=$
Bs
C(e
CFor(b
7Manager
:y(aa
<g
=h
;Stakes(hggh
9rketing$s
8int$s
8ultiAccounts(g
<ByStage(g
<WithStage(g
Gg
<ple(g
8yVested$s
7NextShares(a
8ow(aapaaacc
7Old=Of(b
8nce
8wnership
7Pause
8ercentages(a
8remine
9ivateBonus$s(gh
>SupplyVested
;ilege
9oof(dc
8ublicPresaleBonus$s(ga
7Records(a
>Count
9dTeam$s
9serve(a
>$s
>d$s
:tPreSale$s
7Sbt$
8econd
=Unlock
9ll(a
8omeKims(a
8take(abba
=bdaaaf
:rt@
:te1
<2
<3
<4
8upply
=(a
?a
7Target$(a
8eam
;$;
@s
AAfter12Months
G8Months
F24Months
F6Months
;Vested
9nPercent
8heHodl
:Original(a
9isBonuses
8ime
;(a
<b
;1
;2
;3
;4
;First
<und
;Of(b
;Second
;TeamAdvisorsPartners
;s(b
<tamp
@s(b
8o(b
9Advisor(ba
9EarlyInvestors(ba
9MgmtTeam(ba
9day
9ken
<(a
=b
<ByOwner(b
<Cornerstone
<Holder
<Ownership
<Private
<@
=ransfer
D(f
<s
=(a
>b
?a
>da
>f
>g
=4Sender(a
=AndEtherForEmergencyFund
=Block
>y!(b
=Force(d
=SaleCount
9tal
8prFund
8ransfer(dedd
9ickleDownBonuses
7UnclaimedFunds
9locked(bbaa
8serPrivateBonus$s(bab
7Value1
<2
<3
<4
9nbexTeam$s
:ityUrl(c
9ult
8ested
=$s
C(a
Db
Eb
CFor(b
FBeneficiary(b
;ing(b
>$s(b
7|(b
8ithStage(b
Bb
7_1
82
83
84
8all
;(b
8dates(b
8remain
7able=Of(b
7d
8(b
:b
8A(b
9dvisors$s
9mount
>s(b
9ngelPESales(b
=Sales(b
8B(b
9alance
9ounty$s
8C(b
9ount
8F(b
9or;
:undingInitiatorSales(b
8G(b
8H(b
8Locked?
8Marketing$s
8PESales(b
8Records(a
?Count
8Steps
9upply
8Team
<$s
9o(b
:kenOf(b
=Total
=s
>(b
7s(b
3iabilityPercentage
4ef
6Ratio
4nquishOwnership!
4stGenesisSales(da
3ocate
7ionActive
:Switch(fb
5k(baam
6Group(a
6Part(baaam
2mAdmin(b
3ForSalesBeforeStageLast
3Operator(b
3$PairWhitelist(bb
3Whitelist(g
3ain
6Airdrop
7mount
6=d
6Cap
6Mint$?
6Package
8ntry
6Rewards
6@
:(a
7oken
;s
6der
9?
9Holder
9Purchaser
9|
9sSet
6gNTRY
6ig$s
7ng
9ARXSupply
:irdropSurplus(b
G!es(a
:mount
:uc~able
9=
;nkroll
:ettingFor(a
:ountySupply
?$s
9CapInEth
>Wei
;ts
9EPXSupply
9Funds
>ToEndAuc~
9GenesisCats
9Investment
:ssuableNomins(b
9LockDate
9Owner
9PoolOp~s
:resaleCap
:ublicSaleCap
@upply
;rchase?
9ReserveSupply
;ward
9Supply
?_
9$?
>Burnt
>ForPool(e
ASale
>Holder
>s
?AndCost
?Count
?ForSale
?PerPeriod
?VIPs
?|
:ransfered
9Withdraw
9_for_sale
4rk1
62
3inder
4t
5(baj
5For(b
3oteBettingClose
6Withdraw(aaaabbedd
4valBlackList(b
7^
5e
6(<!List.Data storage>b
?SetLib.!Set storage>b
?UintMap>b
8CLL>a
<m
8DLL.Data storage>a
9ata>b
8GroveLib.Index storage>d
8IterableMapping.itmap storage>b
8SetLibrary.Set storage>a
Ob
Od
;s.addressSet storage>b
=byteSet storage>A
As32Set storage>d
=int8Set storage>0
@Set storage>m
=uint8Set storage>e
ASet storage>a
9ortedDoublyLL.Data storage>b
7Zd
7a
7b
8a
7c
7d
8d
7g
6ARA(b
7ccess(b
9ount(ab
=Minter(b
=Reader(b
=Search(b
9reditedInvestor(b
8tivator(b
7ddress(a<address[] storage>
?g
>b
=FromAccount(b
HFor(b
Bdmin(b
Flist(b
ABlacklist(b
AMaster(b
AOwners(b
AWhitelist(b
=Manual(b
=ToWhitelist(b
=es(g
?FromAdmins(g
CWhitelist(g
8min(b
=c
;List(g
;Whitelist(g
;istrator(b
Cs(b
7ffiliate(a
7lerter(b
8lApprove
:ttachmentsFromCollectible(a
9Ops
9PVPContenders
9TournamentContenders
9oca~(b
:wed(b
=!(b
=&(b
=HIC!(b
=Lock(a
7mountFor!(ab
Fes(hg
7pproval(b
<ed!(b
>&!(b
>Game(b
=r(b
7sset(ba
;Listing(a
;PartOwner(db
;sOwner(b
7uc~(a
8thority(b
=za~(Obb
DPbb
Db
>ed(b
@!(b
@External(b
@user(b
?r(b
6BRA(b
7ad$(b
8lances(gh
8nk$(a
:roll
>(a
@c
8seWhitelist(g
7lack(b
;List(b
;list!(b
?Item(b
8ock(b
;List(b
7onus(e
8rrowingOfferItem(l
8uncer(b
:ty!es(g
7ulk(g
8rningMan(ba
:upGame(b
8yer(b
6CA(b
7P(bb
7ZRLock(ba
7astleFromActive(i
7b!(b
7ertifica~Document(bd
KFromSelf(d
KInternal(bd
=er(b
7laim(bbd
8ient$(a
7ode(c
8in(c
8llaborator(ab
8mpanion(b
<y(d
8nnec~(bbd
9sumer(b
9tract
>(b
?c
>!(b
>From$FallbackWhiteList(b
>Role(dc
;ibu~(b
?or(b
As(h
;oller(b
8oldown
>(a
9rdinator(b
8untry(a
7reator
8owdsale&(b
8ydrView(c
7urrentIcoRound
8stody(ba
;merService(b
6Delegate(b
8positCreator(b
8stina~ByIndex(a
AChain(u
:royer(b
8veloper(b
7iscount(b
9tribu~Sources(g
?or(b
8videndPathway(ba
7ocument(a
8na~(b
6ElementOfArrayType(ele
8igibleBurner(b
7missionProvider(ba
9tter(b
8ployee(a
?b
>sWithExpiredSignaturesAndReturnFadeout
7ntry(b
;Manual(ab
7th
9InvestorRequest(a
7xcept!(b
9hange(ba
>Accounts(b
>PartnerTarget!(b
>TestAccounts(b
>r(b
9lusionFrom$Unlocks(g
=veRate(b
8piredName(c
8tension(b
:rnalController(b
6FRA(b
7abric(b
8ce
9tory(b
8iledGame
7irstAdvisorLock(b
7omWhitelist(b
8rgivedChar(ac
8und(b
;er(b
7reeze(b
<r(b
8omAlloca~List(b
;pproveList(b
Ad!(b
:Battle(l
;lackList(b
?list(b
Eb
;ountyProgramMap(b
:&IDArray(b
:EggPhase(a
:FreezedList(b
;utureExpans~Map(b
:Genera~(5ab
E6ab
;oldList(b
:KYCList(b
;ycTeam(b
:ManagementWhitelist(b
:Ownerlist(b
?ship(b
:PresaleWhitelist(b
<ivateSaleWhitelist(g
AWhitelist(b
;ublicSaleWhitelist(g
@Whitelist(b
:SpecialRatesMapping(b
:Team=Map(b
;okenLocked(g
?;Disallowed!es(b
<talSupply(a
;ransac~DisallowedList(b
:VIPList(g
:WhiteList(b
Ddb
Deb
Dg
?list(b
Eb
Deb
Dg
CMultiple(g
9zen$Configura~s(g
7undAccount(b
:er
<(b
6Game(b
:Manually(bb
7emmyMusicLock(b
7ift(a
7lobalAdmin(b
<Constraint(bb
6Hash(c
8tching@
BFee
BWith$(b
7eir
7older!(db
6Ico&
7nventory(d
:stor(b
?d
>FromWhiteList(b
>List(g
7ssuer(b
7tem(b
6KYC(b
6LastRace
:SaleOnlyNotActivated
7iquidity(a
8sting(l
7oanFromPortfolio(aa
8ck
:(a
;b
;g
:Fund(b
>s(g
:Multiple(g
:er(b
:ing(f
8gicVersion(a
8otbox(b
6MARKETPLACE(b
7anager(b
9y(g
:FromAlloca~List(g
>Whitelist(g
8rket(bb
<From
7ember(b
>d
<Acct(b
8ssage
8tadataObject(c
7ilestone(e
?s(e
8norOwner(b
9t&(b
:er(b
:ingFactory(b
7od(b
9erator(b
?ship
9ule(ee
8nsterIdMapping(bl
7ultiple!esFromWhitelist(g
?llowed!es(g
6NOSPackage(a
7acFromNLF(a
>etf(a
8me(d
:ByOwner(c
:spaceMember(cb
7etworkMember(b
7otes(hha
7umber(a
6OffChain!es(g
7penMakeOrder(bb
9rator(b
7racle
<(ba
<!
<s(<bytes4[]>g
>g
8c(b
8der(a
<d
;s(aa
8iginByIndex(a
7versight(b
7wner
;(Tbfj
<a
<b
=b
>b
;!(b
;Request(b
B2(b
;s
<2
<hip
?(a
@b
6PVPContender(a
Ci
7artOwner(b
:icipant(a
Bb
Be
Bg
:ner(b
8yee(b
7ermission(b
Bc
Ae
9sonalLock(b
BMultiple(g
7ixelsFromMarket(d
7layerFromBoard(dd
8ugin(b
7olicyRule(sbd
8ol(b
7reIcoMembers(g
9condi~(a
9saleContributor(b
=Holder(b
8iveleged|(b
:ilege!(b
9ze(kba
8oject(b
9mo(d
9of(bd
9vider(b
9xy(b
7ublicSalesSpecialUser(b
6Ques~(b
8oter(b
6RRA(b
7andomClass(i
7eceived$(b
=r(b
8ferral(b
<er(d
8gistrar(b
=yFromNameIndex(b
BOwnerIndex(b
BTagsIndex(b
8inforcedWhitelist(g
8quest(bb
=er(b
8seller(b
:rv&(b
<ed$s(b
9tric~
8turnAgent(b
<able$(b
8verse
=Rate(g
8ward$(b
7obot(b
8le(bc
6SERAPHIM(b
7ale(<SaleListLib.SaleList storage>b
;d
:r(b
:sAgent
8mple(ba
7chedules(ah
7da&
7econdAdvisorLock(b
8llOrder(l
8rver(a
:ice(bb
>d
7hare(b
=a
;holder(b
AListing(a
8opModerator(b
7ideService(ba
8gnature(c
:er(b
<s(g
8ngle!FromWhitelist(b
7kip^(a
7omeCWCsFrom(ba
:DETsFrom(ba
:UETsFrom(ba
7pecialBonusCondi~s(b
=FeeTake(a
=Offer(b
9nder(b
8riteFromSale(a
7taff(c
;Whitelist(g
9ge(e
;s
8orage(c
8udent(c
7ubOwner(b
8perAdmin(b
9port(b
=ed$(b
8rvey(d
6TRA(b
7agByModuleType(eo
8nk(b
7ellerModerator(b
8nant(a
7ip(bd
7oken(b
=a
<e
;Emission(a
;Grant(b
;Metadata(a
;@(a
8talCoinLock
7rader(b
=e
9nsfer(a
>AndCallWhitelist(b
>Lock
>Rate(g
8usted(b
=&(b
E!(b
Es(g
=Issuer(bc
6UnitMultipliers(baaa
8locked!(b
7ser(a
;b
:FromBlacklist(b
:Whitelist(g
:s(g
;FromGroup(dg
;WhitelistA(g
DB(g
7tilityHolder(b
6VIP(b
7alid&(b
;Plugin(d
9ueBonus(e
7erificator!(b
<ed(b
>!(b
>Investor(b
>User(b
=r(b
9sion(b
8stingAdmin(b
6|(b
7hiteList(b
@d
@g
?ed(b
A!(b
A&s(b
@r(b
;list
?(b
?!(b
Amin(b
?Operator(b
?edAddr(b
Eess(b
A$Addr(b
Bransfer(b
Jg
AUserAddr(b
7orker(b
6_coin(a
7scribe(b
7user(b
6dSalesAgent
7otchtooffer(aa
3unera~=
2name(c
8c
6Artwork(ac
6Castle(ic
7hibi(ac
6Horsey(ac
6List(bc
6Monster(lc
6$(cc
7ulip(ad
5ingCostsPerChar
3ew(aa
5Featured(a
5Subscrip~ByDays(aaa
5ableOf(a
6l
7sCreditAffiliatesFor
5beginnerprotec~(a
3ounce&
8Ownership
AForever(e
3t(a
4Auc~&
4ByAtom(aa
4Days
5ue(dc
4Ho(a
4Land(afa
4Out(a
8baa
7Multiple(bah
4erOf(a
2open
6(b
6Bet(a
6Contribu~s
6DO
6Sale
3rganize(ab
:Owners
2paintVoxel(eeee
5rTheCastle
4rametrizeMultisig(da
4yLoan(bac
5ment
9(a
:bab
9s(a
3lace(<!List.Data storage>bb
9Data>bb
8bb
7Ability(acfeeeaa
8nimal(ekf
>k
8uditorRegistry(b
9thorised(bb
7Channel&!(b
9iphash(ad
8ontract(b
<oller(b
7DSPRegistry(b
8ecomissioned(b
9legates(gg
8irectory$(ba
7Logic(b
7Manager(b
@b
8ultisig(b
7Officials(g
8wner(b
>b
<Indexed(bba
7Proto(keeeeee
8ublisherRegistry(b
7SSPRegistry(b
8ecurityDepositRegistry(b
7$(b
=g
<Fix(gh
7Wizard(b
=RP(b
7sOld&
4enishEth
9Pool(a
9$s(ba
4ies(a
4y(da
5Thread(acc
3ort
6(bdhf
7d
6Convert$s(ab
6Profit(mb
>fb
6Usage(aab
6s
7(a
4ssess
9Booking(ba
9ionBlocks
=ountyPerHundred
ETen
5t(a
3uta~
:(b
<a
:Clear(bc
:IRNNodeShare
:Of(b
:Problems(bd
2qfee
3isterListening(b
3ualify(b
4est
7(ba
9i
8d
8ebsao
7AddAdmin(bc
:Owner(bc
:ressChange(b
9min$;(bbac
8llowance
8rbitra~(bd
Cd
Da
8udit(bda
7Blok$Ownership;(b
8onus
9unty
8urner&
7Cancela~@
=la~Minimum@
8hangeBurnBounds(aa
=InsuranceFees(HHHHaHHa
Ber(b
=Requirement(ac
=Staker(b
AingFees(HHHHaHHa
8learing(d
8nt
8odeUpgrade(bd
9inToUSD(cfaa
9luLocalNetworkOwnership;(b
9nversion(a
9re
9sign(bajj
9unt
7DelegatedFrom(b
>ion(b
9tachment(a
AOnPause(a
8ispute(qbbaa
9vidends
>t
7EndCall
8rc20;(bba
8therToUSD(faa
8vidence
7FillUp(a
8orMigra~(b
:Refund(a
9unda~;(bd
8reeDistribu~
;zeAccount(bc
7Ids(d
8nterest(aa
9vestment(aab
Df
7Kin$Ownership;(b
7Liquida~(a
8oan(bbaaafc
7Mediator(aab
9mbership
9rge(h
8ilestonePayment(a
9nimum
:t(ba
8utualJobCancella~(qbbaa
7NameChange(cc
8ewMint(ba
8umber(bae
7Of?(ba
9@(ba
8racleValue
<ize=
8wnership(b
@;(b
Jd
7Payment(aa
Acb
:out(a
?adaa
?b
8eer=
8rice
<(a
7RN(a
8andom
=(<func~>a
>e
9te(ccfaa
;s
8eading(b
9claim(b
9deem(a
;mp~(a
Caf
9fund
=ing
9gistra~(d
9maining$s
:oveAdmin(bc
=Owner(bc
9placeOwner(bbc
>TrueUSD(b
9turn(b
9ward
7SetWithdrawalLimit(bac
8napshots(a
7@
8okenExchange(a
DMax
<Issue(bac
<s
=(a
>b
=Back
=FromCrowdsale
9pic(c
8radeDeal(aac
:nsferChild(bb
DrenOwnership(b
?OfETH(ba
@wnership(b
7UnFreezeAccount(bc
9claimed
8pdate(a
7VestingTrusteeOwnership;(b
8otingRights(a
7Withdraw
?(<Smart|Lib.| storage>
@a
?al
A(a
Bba
Dc
AFromLimit(ac
7_close
=(<ChannelLibrary.Data storage>
8dividend(b
8face_proof(cb
8until
7edForMigra~At
9Redeem(ba
9$s
8r
9Disputed
9Locked
9s
:(a
;b
7s
8(a
9d
9i
8Count
8Funded
4ireAuthorisa~
D(f
7CustomerId
7EnoughExpForBreeding(a
7Kyc(g
7NotEmpty!(b
7Once
7Valid!(b
7Whitelisted!
@ingBeforeDeposit
7d
8Authorities
8Bet
9id(a
9lockConfirma~s
=sElapsedForVictory
8Days
9evSignatures
9ownPayment
8Endowment
:tries
9vidence
9xpIncreaseFactor
8Gas
9oldIncreaseFactor
8Majority
@Percent
8Participa~
9layers
9oints
9refix
:ogressOfPreviousDungeon
8SharesToBeBoardMember
9ignatures
<ed!
9tackDepth
;ke
8@BetweenDraws
8_number_players
7sHardCap
2rollFee
2s?
3cheduleTransac~(aa
4ind(b
4ue
6(b
8a
6Account
7ddress
7llRewards(b
6Cat(d
9HashCheck(d
6Index
8vestor(ba
6LostFighter(ab
:Hero(ab
:Property(ab
:$s(ba
6Order(a
6$(b
=b
<gh
;s(a
=b
>a
<InMultiplePolls(h
3earchDivPercent
8ers(b
4ller(b
4rva~
;!
;&s(b
;Fund
;Supply
;|
;s(ba
6e
7(a
8c
8d
71!
72!
7Account
8dd(aaaa
:r
;ess
9ress
8llocated
>ion
;wance
8mount
7=
>Map(b
8ountyRecipient
7CATDestina~
8ap
8oins(ba
9ntract
7Developer$s(ba
8istribute
7ETH
8scrow
7FeeToBurn(b
<|(bb
:sInBps(b
8or(ba
:Jackpot
:Team(baa
8und
;!
;Manager
;Supply
;s
<(b
7IAMDestina~
7KNC|(b
8Y
9New$s(a
7Lockup
7Manager
:y$s(ha
8ember
7NIMFA!
7Of(b
8wner
<ship(b
7PR
9New$s(a
8art
8ool
8ricing
8unksForOwner(a
7Rate
7Seats(ha
8tarsForOwner(a
8upply
7Team(a
;Recipient
8imeLock
;lock
8oken
<Claim(ba
=ount
<Fund
<|
<s
=(a
>b
?a
@aa
=!
=Group(gh
=ProjectAndFounders
8reasury(a
7Unlock@
7VanityURLByOwner(bc
9ult
<Addr
7|
=(a
9ve
;Lockup
;$s
7Y1
82
7_fund
8wallet
7d
8(b
9d
9e
8Addr
<ess
9lloca~
9mount
8Coins(b
8ForFounders
:under
9und
<Left
<s
=Charging(b
=Parking(b
8IcoCrowdsale
9nvestors(b
8LPT
8Opera~alExpenses
9wner
8PercentTotal
8Refs$s(b
8Sum
:pply
8$s
>(b
@a
>!
?reDistributed
>ClaimStage
?ommunity
>Destina~s(a
JLen
?istributed
>Founda~
Cers
?unc~ality
@tureSale
>List(b
?ockedPeriod
>Percent
?ublicPrivateSale
>Team
>|
:talSupply
8|
9ei
;s
9ithdraw
8_funds
8teamtoken
7r|
7s
8(a
9b
8Per$Dest(ba
@Src(ba
;Unit$
8|
6ingPercentage
9Step
4t
5(aaa
9aaa
6b
7bbbbbb
5Ac~(a
<d
6irDrop(aa
8drop?
6ll|s
6mountBonuses
6ppendDecryptedBids(a
5=
8lot(o
7tches(b
6eneficiaryList
7t
6urnt$s
5CollectedFees
7mmission
7ntract
=DeploymentDate
6rowdSale!(b
>address(b
6urrent$OfferingRaised
5Data
6ead$s(a
6ividends
>Calcula~
6ragon=(ba
7op!(b
5Edi~Limits(a
5Factories
6inalize
6ounda~tList
5GroupInfo(a
5Index
5KYC(b
5Lottery
<Manually
9o
5MaxBonusThreshold
5New$s
5OrderIdTo(a
6wnership
5Painting(a
6eriod
6hases(aafaf
5Quote
5Raffle
6eclaim
7port@stamp
7serva~s(bf
7ward
6ick
6ole(b
5Session
6ignature(d
6pentToday
6tate
6ymbol(c
5@Seal
9r(c
6oken
:Of!(b
Ea
;wnership
:s(gh
6raps(a
5Urls(ff
6sedToday(ee
8rPicture(c
9name(c
5VoteKindnessEvery
5Winner
;s(a
7th(bb
3idents(a
5ual?Promille
4gn
6FromMatch(a
4stWhiteList(b
4zeIssuersArray(a
3olu~Proposal(ccba
:s
;(a
5ve
7(a
9acf
:f
8c
8d
8eddd
9e
7Bet
:(a
7Delega~(bb
8ispute(qbbaae
Ckedde
7Emergency
7Fund(dc
7GameByHand(ii
7LotteryByHand(ii
@Oraclize(ii
7RankBoard
8ound
7SellCityForEther(k
8upply
=(b
7@
7_block_hash(a
7d
7r
8(a
9d
4urce
8ERC20!(k
8IdTo!(k
<Name(k
8NameTo!(d
3pectRequiredToRecruit
4ond(a
7er(aaaD<bytes14>Daaaaaa
6savel
7eCounts(a
8Op~s(a
3t
4Candy
5rowdSale!(b
4Finish(b
4$s
:Burned
:Moved
4Wei
4_time
4art
7(rj
7Auc~(aaa
7Crowdsale
@(baaaac
7Game
7Mint
;ing
>(c
7Period
8resale
9ivatePlacement
7Round(ff
7Sale
4ore(a
7AllPersistent$s(a
:Temp$s(a
7=s(<address[60]><uint256[60]><uint256[60]>
7&
8utieTo!(tb
7Item(a
7Owner
7ToCold|(a
9kenOwnership
7Unsold$s(b
7WebGift(b
4rict
8(b
9f
9g
8$;(b
9ransfers
@t
8Until
8ed
:Acct
;ddress
Aes(b
:Percent
:Share
:$s
@(b
@Date
@Of(b
:Vault
:|
8ionExpiraton
;Removed
;s
<(b
3ult
6(a
6Confirmed
6_amount
7block
7hash
7payto
7votes
6s
7(a
9a
8d
7Delay
7Published
@@
7Valida~Step
4me
6Airdrop
7uc~
6BlockNumber
7uy
6Collect$
8ntract
;ibu~
7rowdSale
;sale
6Game
6ICO
7EO
7co
6Lotto
6Mint
:ing
6Offering
6Phase
7reSale
9sale
7urchases
6Sale
7wap
6$Sale
7ransfer
>s
6Whitelist
2t(a
3_img(a
4len
5uklen
3ain=
6ed$sVault
7rs(b
3en~Max
:in
3ire(b
6Axie(af
6WildEasy(llllll
:Hard(llllll
6d
6mentManager
3ract(r
7LatestRevision(r
5itStandard_1
@2
@3
@4
@5
7_1
82
83
84
85
4eive
8FinalResult(<InteractiveCrowdsaleLib.InteractiveCrowdsaleStorage storage>
8$s
>(b
4ieve(a
9ba
:ba
9c
9db
8All
9ssets(b
8CadvsLeftInRefunding
9hange
9ompletedProof(d
9urrent$sToOwner
8DAOReward(f
9ata(a
8ERC(b
9TH(a
9th(a
=b
<ba
;er(a
9xcessEther
:ternal$s(bb
8Finished
9ounds
9unds
8Gains
8HouseTake
8IncompleteProof(d
8OnFail
8PieceFromEscrow(a
9oolFee(a
8RemainingCoinsPostSale
8$
=(a
>b
=By&(ba
=s
>(a
?b
@a
@b
8Unsold$s
8VanityFor|(b
8WCT2
9alletForVanity(c
8d$s
5ggerDrawOnOraclizeError
4y(b
5OraclizeRequest(a
=SetProof(a
5Winner(a
;s
3urnAccounts
8~s(za
7ddress(b
>dex
=Bonuses
=List
8visor$s(ba
7gents(b
7ll
9AvailableFunds
9Coke
9owed@
7mount(a
=bad
<OfELIX!CanProduce(b
>Tmex!CanProduce(b
<PaidBackSoFar(a
=ledged(ab
>usInterest(a
<RaisedSoFar(a
<ToMainAccount(a
7nyERC20$(bba
6=(b
?d
>vLex
?zex
=ToMainAccount
;seToTarget
7ets
7ids(ab
7onus
8rroweedEth
=r(a
>PaidLate(a
8unty(a<Campaign>
<$s(ba
6Chametz
8ild!ForParent(b
;ForParentNew(b
7oins(a
8ke(a
8llateral(a
8ntribu~sToTheSponsors
8upon(Fd
=bd
=vLex
>zex
<Propor~(Fd
7reator(a
6Deed(<Deed>
;b
8posit
=(ba
7ura~(a
6ETHByOwner
9forNormalBuyers
<UnqualifiedBuyers(aa
7th
9(ba
94Sender(a
9Received
9er
;ToInvestors
7verything
6From(ba
9zenFreeFunds
7und(ba
:s"

end Listing
end EvmFlow
