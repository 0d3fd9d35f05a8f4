/-!
# Known signatures, part H
-/

namespace EvmFlow
namespace Listing

/-- Known signatures from `getCallGasUsed` to `getTeamPayouts`. -/
def partH : String :=
"0getCallGasUsed(Pd
?d
8racePeriod(Od
CPd
Cd
7MaxCost(Od
?Pd
?d
7Payout(Od
>Pd
>d
7ScheduledBy(Od
CPd
Cd
7TargetBlock(Od
CPd
Cd
7WindowSize
7back!
7er
9s
5mpaign(a
<d
;BudgetById(d
;Daily^(b
;EndDateById(d
;OwnerById(d
;^ById(d
;StartDateById(d
;ValidById(d
@ity(d
;sByCountry(c
5nAccept?(b
7ttackMonsterIds
6Sell=
:Unit(ba
6celableAt(a
6didatePosi~(ba
<s
7y(c
6vasBitmap(i
:yOwner(b
;State(e
9Count
9Info(i
9PaintedPixelsCount(i
?rs(i
9State(i
9esWithSellOffer(f
5p
6(b
7c
6?
7t@(<PresaleLib.Data storage>a
=i
6ByStage(a
6InWei
6Tab(a
6abilityRoles(bs
7city(a
6ital(a
6suleInfo(a
6tainCount(i
:IndexToCount(i
<fo(a
5r(a
6Auc~ID(i
6Count
7urrent^Auc~(i
6Details(i
6Earning(i
6Name(a
6Owner(i
6Product(i
=Count
>urrent^(i
=Earning(i
=Name(i
6Selling(i
6Type(a
6d
7(<Deck>a
=Lib.Deck storage>a
8a
8b
8e
8l
7Attrs(h
7BuyAuc~(a
7CanPresaleCount
7Details(e
?kea
7IdByRank(a
8ndexOfOwner(bb
9fo(a
=aa
<i
7LeaseLength(e
7Number
7Power(aa
8rice
7Type(i
;Info(a
7s
8Details
8Info(a
6rotCredits
6s
6tItemInfo(ba
7Length
=(b
7Subtotal(b
6veUp$s
5shOut?(a
7backRate(b
6tleBasicInfo(b
BById(i
;ttleList(i
9Num
9ObjInfo(i
9Sale(a
:tats(i
9WinLose(i
5t(a
6Details(D
6Ids
6Names
6Offer^s
7wner(a
;s
6^(a
6Release(a
8quest^s
6egory(a
<b
;Hash(b
;WorkClock@Ref(a
6sCount
4eiling
5lda(a
6eb(a
8rity(a
6ls
8SinceLastEvent(b
5ntsPerETH
7urion(a
5rt!ByID(c
7Key(c
7ificate
>(b
?d
>Expires
>For|(bb
>InfoByNo(be
?ssued
>Keys
>Since
=ion(b
@DbAtIndex(a
BCount
BStatus(b
Aocument(ba
HAtIndex(ba
:edDocCount(b
<StudentAtIndex(a
CsCount
;r(b
<AtIndex(a
<Db
<Status(b
<sCount
4fiEstima~(b
4hStatus
5ain(a
8FeeArray
;s(a
8yData(c
9Sender(c
9@stamp(c
9URL
6llengeNumber
6mpReward(a
8Stats(a
8ion
8sByOwner(b
9Count
9ForSale
6ncePowerWithBonus(b
7geFee?(a
7nelInfo(bbi
:With(<ChannelManagerLibrary.Data storage>b
?b
:s!es
;Participants
6racter(ba
=i
<Index(i
7gers
7ity(a
6tMessageAtIndex(a
5eapestCardWager(b
6ckResultMessage(E<BTTS$Interface.CheckResult>
8sumAlgorithmById(a
DCount
;ById(a
;Count
;PairById(a
?Count
?IdByAssignerAndResourceId(ba
5ild(baba
8Status(a
8Universe(d
8renAgainstAnimalId(a
6pIds(f
7Value
5ooses
6senNumbers(baa
5unk(ee
4irculatingSupply
<onCap(b
5ties(h
9Data(h
9Strings(h
6y(a
7ActiveBuildings(aa
7Buildings(af
7Data(a
7PendingBuildings(aa
8opula~(a
7ResourceRichness(a
?s(a
4laim(aa
9bbd
9c
8?(b
>ForBlock
F(a
8Data(<>aaa
8Est(b
8Keys
<Count
8Left(b
8Seed(b
9tatus
8able
<?(b
<=
CFor(b
<Dividend(b
<Rewards(d
8edFinancialData
6mTax
6ssCheckOwner(lb
8Info(i
8MintCount(i
8Name(i
8Players(aaa
9ropertySize(ie
@Value(iea
8Rank(i
5earance(b
6ide
5ickMetadata(a
6ent
9(a
9=
@s(b
9Category
:ount
6x$
5one|s(e
6singLine
:@
>(d
>ByStage(a
6wn(a
4md
6_control
4ode
7(a
7Hash(b
7Size(b
7$(a
5eff(k
5founderCount
<s
:it$!
5in(a
7!(c
8ge(ba
7Ids
8ndex(db
9fo(c
;FromId(k
7Remains
7Stats(a
7sSinceLastHatch(b
5ld|!
6lateral
7ected?
<Ether
<Ore=s(b
:ible(a
>Details(a
>^(aa
>Type=(baa
>WithMeta(a
;on(a
:or
6or(a
:a
8s
9(i
5mbat(a
9sCount
6mAuc~
7and$s
7ent(a
;b
:Accounts
BLength
:IdByAd(aa
:sCount
@ByAd(a
7ission
=ForType(c
=Target
=Withdrawn(i
=s(a
8tHash(ba
9Threshold
9ment(a
>b
9teesNumber
7unityBallotCents^
BWei^
6pactData(b
8ny(a
;b
;d
:!
;lloca~(a
:ByName(d
:Count
;rea~Cost
:Details(a
:Hash(b
:Shareholders(a
:$(a
8re
7eti~Info(a
>StatusOfHopefuls
FRegistrants
>Values(ce
7letedFlag(kk
<GamesStatistics
<Tasks
7onent(cc
<ByName(c
<Support(k
<s
8ser
9i~^(a
7te_1
;0
;1
;2
;3
;4
;5
;6
;7
;8
;9
:2
;0
;1
;2
;3
;4
;5
;6
;7
;8
;9
:3
;0
;1
;2
;3
;4
;5
;6
;7
;8
;9
:4
;0
;1
;2
;3
;4
:5
:6
:7
:8
:9
5nBal
6fig
9(c
9!(d
9Bool(d
:ytes(d
9Uint(d
9ura~
8rma~Count(a
?s(a
7lictResolver
6nec~(bbd
:or=(b
6secutiveDeaths
8nsusDetails(b
7traint(dbb
6tentByID(<ContentUtils.ContentMapping storage>d
<KeyIndex(<ContentUtils.ContentMapping storage>a
<Name(<ContentUtils.ContentMapping storage>c
Ac
:Count
8st(c
:End@
:StatusForDate(i
GAdmin(i
7ract(bb
<c
<d
;Addr
?ess
B(a
Cc
BById(d
;Bal
>ance
B(bb
BOf
<yID(c
=tecode(c
;Code(b
=unt
<reated@ById(d
;Data
?SK
<etails(d
<ividends
;ETH
<arnings
<ther=
;Hash(c
;Id
<nfo
?(d
;Metrics
;NameById(d
;Origin
<wner
@(c
@!
;Payout
;Receiver(b
;Sample(c
<igners(d
<tate
?us
A(b
;@stamp
<oken=
;Updated@ById(d
;Version
;or
;s
<(b
<Of
>(ba
9rians_by_index(a
8ibPeriod
:u~
?(b
Aa
Ab
??(a
?=For$Group(ab
?ETH(b
?FromHash(d
?Hash(ba
CByIndex(a
Ces
?Limit(b
?Of(b
?Pool
?RNTB(b
?@(a
@okens(b
?USD(b
?s(abb
Ab
@Count(b
@For!(b
<or(a
?b
@a
>?
>By!(b
@Index(a
@Number(a
>Data(b
>ETH(b
>Info(<PresaleLib.Data storage>b
Cb
Dc
>RemainingCap(a
GPresale?(b
GSale?(b
>$s(b
>USD(b
>s
?(ff
?Count
D(b
?In$Group(a
KCount(a
?Length
8olInfoMaxPerBlockImbalanceList
ATotalImbalanceList
>Per$(a
>$list
:ler
6versionFee?(a
=Info(c
=Rate
A(bbaa
5oldown
;(k
;EndBlock(a
>@(t
BFromIndex(k
;Index(a
At
@Count
@FromGenera~(k
5paCore!
7Market!
5reSupply
6rectedStats(a
<TotalBPOf!(b
E$s(h
5signer(a
;Fee(a
6t
7(c
7ForAttack(e
:BattleCards(aaa
:Cards(aaa
:Health(e
:Race(e
:Trait(e
:Uprade(aaa
7ToCancel
9Kick
9NextLevel(a
9ken
5unt
8AllBuildings(af
8Bonus(a
9uildings(aaf
9ySeller(b
8Cities
8Holder
>s
8Members
8Partipants
9layersOfOwner(ab
ATeam(a
9osi~(aa
8Sales(aa
9enderCities(b
>Lands(b
9tages
;kes$
8Teams
:mpHolders
9ransferIns$(b
8downDate
<s
8er
:Proposals
8riesData(h
<OfCampaign(d
9y(a
:Bet(a
;yId(e
:Data(a
:Info(a
:Limit(a
<st
:OwnershipList
:Spots(k
;tats(a
6pon(c
6rseList(c
5vfefe(a
5w(a
4raft$!(a
8ingAuc~(a
5eateUnicornFull^
IInCandy
@^
EInCandy
8ionCost
;DateOfHistoricalMetadata(ca
;@
<s(a
;WeiCost
8or
:(a
:!
:Metadata(c
BOfHistoricalMetadata(ca
8ure(a
6dit
9(b
9Bit!
:ond!
9Fund!
9bit!
9or!es
<mounts
9sAtIndex(a
:For(c
5op(a
6ssConnectorReturn(bba
8ForkData(l
<Id(c
6wdsale!
<=
<&
<Info(bd
<Manager
>xRaise(bd
<StartAndEnd@s(bd
?te
@us
B(bd
<Tier(bda
@List(bd
=okens
<UniqueBuyers(bd
=serCap
<Whitelist(bd
9ourcer(d
5ySolObjectsByOwner(b
6drController
8Storage!
8View!(c
<StandardName
HHash
6ptoAvatar(a
9Cup$&!
9Gamer(a
9Match(a
9Picture(a
9n(a
6stal(a
:GeneKindWeight(a
:KindWeight(a
:Weights
:s(b
;ByKind(ba
;Summary(b
4ubeCount
5rPayTable
6r?
8uc~^Auc~ID(a
CTankID(a
7=
7EthValue
7FeeRate
7Sale
7TeamSizes
8ype^(a
7ency(a
;!
;Byte(aa
;&(d
;Decimals(a
=nominated
;Hash(a
;Length(a
;Payment(ba
;Symbol
9tAuc~^(bba
;vailableFunds
;ward
:=
AForCampaign(d
;eneficiaryCap
;lockNumber
?ValueAndSell^ForTile(k
;onus
?(b
?Factor
?InPercent
?Pct
B(a
?Rate
?System
?Tier
;ragKing
;uyOffer(i
=erRateInPermilles(f
:Cap
=acity
;laimerForTile(k
;ompeti~Values(c
;reditsExchanged
:DaoStakeSupply
<ta
<y
;evReward
;iscount
BPercent
=placement
;ragonGirlLotteryNumber
;uke(c
>Paid(c
:Edi~
;thCapPer!
;xchangeRate
F(a
:FeeWindow
;gcCap
:Game
>Info
@itialMinBetSize
>Steps
<s^
;enera~Id
F(5
G6
:Hardcap
<sh
;eroOwners
;ighscore
CUser
;unterLicence^
:ICOPhase
BBonus
=RoundInfo
;coNumber
;mpeachmentUrlDetails
EVotesSupporting
;nvestments
;tem^(a
:Jackpot
:LeaderOwners
<vel
?(aaa
;uckyStone^
:Margin?(bbbaaa
;ilestone
CPostponingProposalDura~
Drocessed
FposalStatusForType(e
<ningDifficulty
;odifier
:NumberOfUsedService$Wei
:OwnerBallence
?s
:PRETDEBonus
;ayoutIndex
;eriod
@Index
;hase
?(a
?Close@
?Divisor
?Index
<raseInfo
;ot
=Info
=Size
;rice
?(a
Aa
Be
Ae
@b
Aa
@i
@nnKl
@t
?Atto$sPerWei
@uc~(i
?For$(a
?PerWei
:Rate
>(a
?b
>InCents
>WithBonus
;ound
?Entry
?Id
@nfo
C2
@sActive
AFinished
Asued
?Minimum@
?Rewards
?Total
:Saddle^(a
<le
>Rate
;ellOffer(i
>^
;hare(b
?holders
;martSpeed^
;old
;pend(Tb
;tage
?(a
?Discount
?Id
@ndex
=te
?Id
>s(a
@l
>us
<inkyLinkys
;upplyVote
:TDEBonus
;ap?
;erm
;ier
>Hardcap
>Index
@fo(bd
>RatePercentage
>Stats
<me
>stamp
;oken?ForOneBtc
KEth
?Cost
?^
DInCents
DWei
?Rate
?sByType(i
@PerEther
<talFunders
;ranche(a
AVolume(a
:Value
;elocity
;otingDescrip~
:Winner
@MoveCount
:YearGameMiningRemain$(k
H$Cap(a
>Mined$Cap(a
>Remain$(k
:lyClaimable?(b
<RunningPhase
CTier
5stomBuyerForIndex(ba
>Limit(bb
>MappingCount(b
9ExtraData(dad
9Field(ad
9er
;(bb
;AtIndex(a
;=(b
;Count
;PolicyCount(b
<remium(a
;Service!
;Tx?KWh(bd
CMCW(bd
>tIndex(ba
=Count(b
=OrigMcw;(bd
=PaymentKWh(bd
DMCW(bd
=Registry(b
=@stampPaymentKWh(bd
MMCW(bd
5tie(t
6s
4ycleInfo
3D
4AI(a
5dmin(d
5rbitraryData(<IxIface>dj
Bdj
4BallotID(da
:sN(d
4CategoriesN(d
;y(da
5ommBallotsEnabled(d
6untedBasicBallotID(da
FsN(d
4EditorArbitraryData(dj
5rc20(d
9OwnerClaimEnabled(d
4Hand(i
8Rank(i
6sh(<bytes13>
4Info(d
4Owner(d
4RCTotal(a
4SP(b
5TName
:Bytes
6Symbol
<Bytes
5tructData(ba
4ac(l
5ilyCount(b
8Hash
8Limit
=Remaining
=Used
9otteryParticipants(a
8Payment
9rice
8Tickets(b
9ransac~VolumeReceiving
ISending
8WithdrawLimit
5nk(a
5ta
7(aa
8b
8c
8j
7!
7ById(e
:ndex(a
7Colla_001_001(c
C2(c
=AA_01(c
A2(c
>B_01(c
A2(c
9ntract!
7FromCode(c
7Holders(b
>RefBonus(b
7Length
7Num
7Point(aa
7Request(a
>Length
7_1
90
91
92
93
94
95
96
97
98
99
82
90
91
92
93
94
95
96
97
98
99
83
90
91
92
93
94
84
85
86
87
88
89
7s
8et(ba
:ByIndex(a
:sCount(b
6e
7Count
7OfSignature
7Posted(a
7Ranges
7sForUser(b
5wexSignature(c
5y
6(a
7k
6Count
6EthIn(a
6sInMonth(ek
7PassedSinceLastRefundBallot
FTeamFundsBallot
4eadline
6lById(a
9Number(a
7CancelRate
7DataByNumber(a
7erAndLuckyInfo(a
9Value(pe
7sCount
8Length
6thCoin
5bug
5cimals
;(b
<c
;Better(b
7sion(d
5ed(a
8d
7Id(da
9s
6pInfo(a
5faultDona~
:ExchangeRate
:GracePeriod
:RequiredGas
:StackCheck
6ense(a
6lator
6rostFactor
5lay
8edBonus?(b
6egate
;Details(b
:ionID(bb
:or(b
<UnbondingLock(ba
7tedTeams
5mocInfo(d
5nomina~$
6yPremium(d
5ploy@
9edEvents
;Games
;Length(b
;Marriages
=tches
9mentBlock
9timeBlocktimeBlocknumber
6osit
:(a
;b
<a
:!(b
AVerify
;mount
:Count(b
:Info(b
<stanceCount
:Num
:Owner(b
:Record(b
:TxMap(c
:WithdrawCount(b
BList(bh
:ary_func~
F_control
:ed(b
<Of(b
:or
<s$s
:s(b
;?Left(a
5scendantsOfThing(a
7rip~
>(b
>Hash(b
6ignatedCaller(Oda
DPda
Dda
=Reporter
CingEnd@
6tQty(bbaa
7ina~ByIndex(a
7royedWhenRoundOver
5tail(a
9s
:(ab
;b
;c
:Battles(a
5v
6=
6Fees
6eloper(b
<!
<Fee
<ReservedLockInfo(a
:mentFund=
4iamond(a
5ff(aa
7iculty
=(a
5rectBought$s
9OffersComissionRatio
5scipleNum
;Sale(a
;Vend(a
7laimer
7ount
;Of(a
;Stage
;s?
6pute
:Fee(d
:RoundDura~InSeconds
:ThresholdForFork
6tributeProfitsInfo
=d?(lcb
>Ore=s(b
>$
Cs
@tal
<ionFacts
?Status
?@
?s
9ct(a
;Code
5vCard(a
6idend?(b
;=(b
;Index(a
=fo
?(a
;Payout(aaa
;$=Of(b
@Supply
<ransac~Left
;s
<(b
4na1(a
62(a
4oc(a
7r
6AsBytes64(a
6Count
6ument(a
;Details(a
;IdWithContentHash(c
AIPFSdirectoryHash(c
AName(c
;Sign(aa
?sCount(a
;UpdatedVersionId(a
;sCount
5g(a
6Name(b
6gy(a
5main
9(a
5natee
8ion(b
;?
;^
;Stats
;s
8or(a
:sNumber
6e!es
8irdrop?(b
5uble
9Keccak256(a
9Period
4ragon(a
9Fight(a
9^No
@(a
6w(a
5ink(a
5op?
7sOf(b
5ug(a
7s
8SinceLastCollect(b
6peCoin
4sitribute(ba
=Multi(gh
4thShop(b
6Teller(b
4ue@(a
6l1(a
72(a
6sIn(a
5keDate(c
7NickName(c
5ngeonDetails(a
:FloorDetails(a
:Power(a
5ra~
;S
5tchAuc~ToBuy!
ACraft!
3E
4GTTotalSupply
4Now
4OSKeyFor(b
4RC20(baba
6=(b
6&!
4SOP
4TH
6=
=(b
6x2(a
4achBind!Account
5rliestPosi~(b
7yAccessKitsRemaining
8Purchase(a
6nEachBlock
7ing?
:s(a
4bola
4di~(a
:Limits(a
:Release@(a
:sCount(a
5uca~Citizens(a
4ggDataById(l
6IdByObjId(la
6PhaseList
6sOff(b
7SinceLastHatch(b
7ToHatchDragon
4lement(a
:At(a
:InArrayType(ela
<fo(a
>View(a
:Loca~(b
:Owners(h
:View(a
:s(h
;FromIndex(ii
5oRating(b
4mblemOwner
5ergency;Signer(ba
JsCount(b
5ission(a
;Providers
5oji(a
5ployee(b
;Count
;InfoById(a
AName(c
4nabled
:$sInforma~
@Length
5cPubkey
6Seckey
<(b
6ounterDetails
<Results(ab
6ryptedResourceDecryp~Key(aa
:ionAlgorithmById(a
FCount
5d(<DLL.Data storage>
6Block
6ClaimDate
6Date
:1
:OfCampaign(d
6GameStatus
6ICO
6@
:(a
;b
:OfStage(ba
6ed
8Games
5emyCombina~Of!(b
5forceRevisions(r
5s(b
5titledFunds
8y(b
9State(d
6ry(a
9j
8^
8Status(bi
4pisodeBranchData(aa
:DataCommand(aaa
>Random(aaa
5ochData(<>a
=aa
4quip$s(b
4rc20Rate(c
4scrow(a
9!(a
9Count
9Data(a
:eposit(c
9Fee(b
:ullInfo(b
9Payments(a
5tateData(a
6imatedRound(a
4th
6(a
6?(a
6BalTeller(b
9ance
=(b
=Of(b
8se
6Chf^
6Deposit!
6ForMetResult(a
6Offer?(a
;^(a
;or(a
6PhiRate
6Raised
8te
6USD^
7sdRate
6artArtReward
9RevenueReward
6er
8(a
9b
9n
8Back
:lance
?(b
?OnCrowdsale
9oxes(b
8Contributed
8Dog(a
8FeeFor^InCandy
9orStakes(a
;$s(a
Ce
AOld(a
8In&
8MonsterInfo(a
?Number
8^
=forDapp
8Raised
9eceived
8ToBuy(aaf
?f
8Value
=(a
8eum
;FromPreIco
;$
8oll!
8s(a
8um
4uroCollected
4vent(ca
8!
8Banks(a
8End
8Hash
8Id(bd
8Start
8s(aca
9Count
>(c
9History
5ilMorty!
4xchange(a
;Adapter(d
;Details
;Func~Signatures(b
;Info
?(d
?rma~(b
;Rate
?(a
Aaa
@b
;s
7gComisnMulByThousand
5ecCost(a
7^
7utedTransac~s
9ive
6rcisePeriodDeadline
5istCell(b
8ingOrders10(eba
C0(eba
D0(eba
A20(eba
C0(eba
A5(eba
B0(eba
C0(eba
8s(r
5oplanet(a
5p(a
6ected?(d
;=(b
;GameSize
;Rate(a
@bba
?s(bggh
<eturn
;Total$s
6ira~(aa
=Request(a
8edCratesForUser(b
8y@
6lorerList
5tendedAttributesForPlayer(a
8sionPublica~(c
7rnalCurrencyProcessor
;FundsRaised(c
6ra=(b
9ets
9onus
8Gas
8$s(b
8sData
3F
4ACTOR
4IRST_STEP_LIMIT
>MULTIPLIER
4ST=
4UTTotalSupply
4actory!
A(<DRCTLibrary.$Storage storage>
:Count
:ForCountry(c
:Profit(ab
:byIndex(a
5irymasterReq
5lconmasterReq
6lback
5me=(b
7dStarByID(a
>Mass(a
>Name(c
5shion(a
:sAttrs(h
6tExtra
7Gap
7est(kee
4echaTax
5e
6(a
8bbbb
6?(m
6=
6Parameters
7ercentage
6Ratio(b
7ecipientById(a
6Sharing|s
6To$Conversion(a
8ken
6Value(b
6Window
<(a
<By@stamp(a
<Id(a
6d(aaa
6s
7AvailableForWithdraw
4iatTransac~(ca
BsCount(c
5bonziPlayers
5eldData(a
5fthRoundRelease@
5ghter(a
:Array(h
:Info(ii
:s(i
5le(e
7At(a
6lVolumes(fjaa
7ed?(a
6m(a
5nal?(ae
9nswer(d
>IfMatches(ddbia
8Supply
8Teams
8iza~@
6eLevelOf!(b
>Username(c
6ishDates
9Status
9@
5rst(<SortedDoublyLL.Data storage>
8ActiveDuel
B1
B2
>Gamble
9dmin
9uc~sEndDate
AxtendableStartDate
@RemainingDura~
8Batch(b
9uyer(b
=!(a
=sFee
8CommonsForum
8DocumentIdBetweenDatesValidFrom(aa
BStartingAtValidFrom(a
8Milestone
8PhaseCap
9oints
8RoundRelease@
8SchedulableBlock
9tartableIndex
8$s
9ranche
<scoderInPool
9woOutputs(j
8UnsortedOffer
5sh(i
7AtBase(a
7By!(b
9Pos(a
7IdBy!(b
;Pos(a
7Params(aaab
5xtures
4lags(r
5oor
4mLength
4orSale^s(k
6ceOffsetBooks(b
6ecastCount(aaf
;Data(ddXe
;Score(a
7stCount
7verRose
6kEnd@
7Reputa~Goal
7ingMarket
6thRoundRelease@
7une(a
6wardPurchaseFeesTo
:UpdateFeesTo
5unda~(b
=Status(b
8erMember(a
@sInvest(b
:Status(b
:sGames(b
;$s
A(a
6rth!=
4ree
7?
8nthill
7=s(b
9nker
9t
8ulls
7CHICKEN
8at
8hicken
8oins
8raigGrant
9ocs
7Dino
8ragon
7Extension(d
7Fairy
9lcon
8uck
7Hipster
7Kebaber
8ilo
7Lobster
7Miner(b
<al(b
7Pacifist
8lumber
7Rabbit(iaedd
8ickAndMorty
7Seeds
8hitClone
9rimp
8nake
8perm
8quirrel
8trippers
8ummon@stamp(b
8word
7@
8oad
8urtle
=s
7Vines
7lanceAgent(b
7zeAccount(b
9Info(b
9SinceDetails
9@stamp(b
9UntilDetails
8ing(ba
;SummaryOf(b
5om
7?Books(b
7Faucet(c
6ntEnd$=Of(b
@Supply
6zenAccount(b
@CoinCount(b
9ShareValueInMarket(b
9@stamp(b
4ulfillment(aa
6lCompany(ba
7Race(a
7State
7TicketDetails(maa
7round
7yVested?(bb
5nc~Identifier(c
6d
7(a
7Altera~s
7ById(a
9Manager(b
7Details(b
7Info(dcb
?b
7Receiver
7ed$Count(dc
>sByIndex(dca
8r(a
9=(b
:yIndex(dca
9Contribu~(b
EClaimed(b
;unt(dc
9sCount
7ing(ba
:InfoForUser(b
>OfPhase(e
:_Old(a
7s
8(a
9bf
8AndAvailable(b
8Collected
8|=
6gible$!
5rnace(b
3GDemoc(a
9sN
4Erc20ToDemocs(b
4TO!
4ain(a
7Exp(ee
5mblerBet(ba
:GameIds(b
9sList(a
8ingPartyInfo(a
@SummarizeInfo(a
6e(a
8b
8e
8l
7!ById(a
>es(a
8mount(a
>ba
=s(a
7=
8egin
8id(aa
8lockNumber(a
<s(a
8onusAdded
8yID(i
:d(a
<d
9Player(b
7CalculatedStats(a
?ionProgress(a
9rdId(a
8hance
8ompleted(a
9nstants
8urrentRoundId(a
7Data
7End
:(a
;ba
7Fees(a
7Hash(a
<ba
7Id(bcckl
:cckl
9By!(b
9s
:(b
:ByCategory(d
8ndex
9fo
;(a
;ById(a
>ndex(a
8tem(a
7Lock(b
7Maker
9xNumberOfBets(a
8in?ByBet(a
7Name
8um
:Sides(a
:ber
=(a
>ba
7Paused
8layer(a
;ingStatus
8rize(a
=ba
9oprietaryData(a
7Result(<GameInfo>
>a
>l
8oundOpen(aa
8ules
<(a
7Settings
8ides
8tart(a
=ba
<Block(a
<@
<ed
:te
<(a
=b
;s
8ums(a
7Vars
7Win(a
;ba
:ner(a
7rs
7s
8ByDay(a
8Length
8PlayerBids(ab
>s(a
5sForMcr
<Data
9Xau(b
6Limit
6^
;PctOfBetValue
6Scalar(aa
5te!(b
4em(a
5n
6(a
60COnfig(i
7IVs
7ObjInfo(l
6Code
6eScience!
7ra~(a
>t
=EndAt(a
=ForCall(d
@Window(5aa
G6aa
=IdForCall(Od
GPd
Gd
=Size(a
>tartAt(a
7s(t
8ForSale
?BySeller(b
8Market!
4iffBlock(i
6t(a
7IdsByRecipient(b
7SoldFromType(a
7TemplateById(a
7o!
7sByTemplateId(a
8Counter
5rl(a
7sAuc~^(a
5venCount
4ladiatorCooldown(b
<Power(b
5obalConstraintParameters(bb
4oalsCount
5d!
5ldDepositOf!(b
7Migra~(a
7Transac~(ca
BsCount(c
7XchgRate
7mintFeeAccount
7sSinceLastCollect(b
5oCostForUnit(aaa
6Produc~(b
6dDecision(d
7Preset(d
9ice(d
4pgKey
4radeByQuailty(k
6ffiti(a
6nt=
?Of(b
9eneficiaries
8Count
6pesSinceLastHarvest(b
9ToBuildWinery
6vatar(b
5eeksBattlePoints
EBy(b
6y(a
5id8
5oup(a
9b
8Data(a
8Index(a
8Members(d
8Purchased^(a
8Result(a
8Statistic(a
8TeamInvest(aa
8s
9ContributedTo(b
4uaranteedContributorsLenght
7dianNum
;Sale(a
;Vend(a
5estNotes(b
=Info(d
8Orders(b
3HKGOwned
6^
4WC!(b
=ByIndex(a
=Count
4alvingBlocks
:Of(b
5nd(a
7Rank(i
7leOwner(d
5ppinessCitizens(a
5rdCap
6vestOpera~(cb
5sPermission(bcc
6StartedState
6VoteForCurrentMilestoneRelease(b
6h
7(<address[4]>2
8a
8baaaa
8c
8dd
8edd
8u
71(<uint8[5]>ed
72(bd
7By$Id(a
7Digest(c
7Key(ba
7OfTheProposalDocument
7Picture(d
7RateOf(ba
=CurrentHalving(b
7Signatures(a
7ratePerDay(b
5tchDura~By@s
@MultiByGenera~
8ingEggData(b
>Id(b
4eadInfo
7er(d
6l=
7thCitizens(a
9ForCost(i
6rt^
5irs
5ld(a
7Coin(b
5ro(a
7Attributes(a
8vailableAt(a
7BP(a
7ClassId(a
8urrentLevel(a
>^(a
7DBZHero!(a
8etails(a
7Info(a
8tems(a
7Level(a
8oca~(a
7Name(a
7Owner(a
7Power(aa
7RequiredExpForLevelUp(a
?GoldForLevelUp(a
5xSymbol(c
4ighWater
8inPercent(a
7estBid(a
=der(a
:MilesAt(a
?OwnerAt(a
;ortgageRate
:^(a
?At(a
?OwnerAt(a
:Unit^IdxFromSell
7score
5pstermasterReq
5stBtcRate(a
7EthRate(a
7oricalDelega~(l
=^(a
9y(aa
;c
:At(a
:Length
4odl?(a
7HasBeenWithdrawn(a
7Owner(a
5lder(a
9!es(d
:tIndex(a
9ByIndex(ab
9Count
>ryCode(d
9Edi~s(b
:xternalIdBy!(b
9Id(b
:ndex
;fo(d
9Limit(b
;nk(b
9WithdrawIndex
9s
:Count
:Length
7ing(a
;b
:sCount
;Supply
5meadvIndex(a
5okOperator&!
5pefulId(b
5rse(a
8Shoe(a
8y(a
5stOrders(b
7RoomLists(b
5t|!
5ur(a
7s
6seCard(e
<sNumber
8Edge
8Fee
8Info(d
8Traits(a
5wManyLeftToDistribute(a
7uchUntilHardCap
4p(a
4umanInfo(a
8Number
4ybridiza~Full^(a
@^(a
5pe(a
3ICO!(e
6Bonus
;?(aa
6Date
6EndDate
6Length
6Percentage(e
6Raised?
6Stage
9tus
6$
4D
5Mapping(aa
5_control
4EOId
7nfo(b
6sInfo(g
4GOAccoountByAddr(b
4Hand(i
4IPTotalSupply
4PFSHash
;(b
<d
4ced!es
7Infos(b
5oAddrCount(a
:ListByIcoRuleId(aa
6Bonus
6Cap
6Deflator
7iscount
6Info
8vestors!esCount
6PhaseOneThreeDayIndex(a
?oken^InPoundPences(a
7rice
7urchase(b
6RuleList
6Status
8ep(a
7upply
6@
7okenHolders!esCount
;s?(aa
Eb
<Sold
6niqMaxInvestment(b
4d
5(<>a
6aa
5ByName(c
5FromStr(c
5easSinceLastDeploy(b
6ntifier(a
=FromSec~Index(a
9tyInfo
;Name
;Provider(b
;|(b
4mageBlurredAt(a
8CurrentRegionId(a
8Data(ak
<Length(ak
9escriptor(a
8Height(a
8Info(a
8Owner(a
8PartsCount(a
8RegionId(a
8Width(a
5mortalsOnTheBattlefield(b
5pactCount(c
9Donor(ca
9Linked(c
9Value(cb
6lementa~
4nPlayGames
5Stake(a
5box(ba
5centivesPool
6omingValueAsEth
6rease
5dex(aa
9b
9d
9ee
9kk
8By!(<DRCTLibrary.$Storage storage>bb
Bbb
:ProposalId(d
:Ship(a
8Name(d
8Order(a
=1(a
=2(a
8Root(d
8$(aa
6icesWithClaimable$sForBuyers(bbba
PSellers(bbba
7vidual^(ba
5fo
7(a
8b
9aa
9b
8r
7A(a
7B(a
7Cell=
;Lockup
7D(a
7Levels
7Panel
7s
5itBlock
7Func~
7ialEnemyCombina~
:HP(lll
:^
?Of$(a
=ze(a
:ReportMinValue
@StakeSize
@er
B!
:State
:Terrain(aa
:ized
:s
9ted
5sertPointForNum$s(ba
Ma
6pire$s(bba
6tanceImplementa~(d
;Metadata(a
;s(d
9tia~Count(b
7itu~By!(b
@Name(c
7ruc~s
;or
6urance(da
<sCount(d
5t(c
7d
68FromByte(<bytes14>a
6Value(c
6en~(a
7rCrypto^
8est
;(a
=a
<b
;Count
;Rate(a
?Punitory(a
;@stamp(a
;or(b
8faceImplementer(bd
8val
;s
<ForWindow(aaaa
6rospec~Registry
5validKeys
6erted^(b
@Info(b
7stStatus(a
:um
9ed
;?(b
9ment
=(b
=Record(a
CListLength
=s(b
>ByCountry(k
9or(b
;!(a
<tIndex(a
;=(a
Cb
<uyers
<y!(b
=Index(a
Da
=Value(b
;Contribu~(b
=unt
<redit
;Deposit?(b
;Info(b
;List(a
;Posi~(a
;$Percentage(ba
;Wei=(b
;s
<!es
=ndTheir=s
<Count
A(a
<ETH(b
<Fee
<Length
<$s(b
Da
6iteInfo
9eInfo(a
:PIDs
4pfs!(d
7HashTo$Id(c
4sAll;sLocked
5BlockRevenueCalculated(a
6onusClaimed(ab
:UnlockExempt(ab
5Closed
6oinReg(c
7mpany(b
7ntractValid
5Enabled(a
5MigratingFromLegacy
5NFTAttached(a
5Participate(ba
6rojectBonus
5RevenuePaid(ba
5SecondPhaseBySolded$s
B@
@EndedBy@
8urity|Reg(b
7ndingLocked(b
6tartable(a
7opFunding
5ThirdPhase
5WinnerSelected
5land(a
9BattleStats(a
9PreviousOwners(a
9s
5suanceCount(ffff
;Ids(ffffaa
7eAssignee(ad
8State(ad
8d
9By
8r
4tem(a
9a
8ba
8c
8ja
723(a
7Allowance?(abb
@^(abb
8mountOf(ab
7By$ID(a
7Count(a
<s
7Holder(a
=s(a
7Ids
:Pagable(aa
8nfo(a
7KindCount
7RafflePlayers(a
7TempHolders(a
7sByOwner(b
8ForSale
8Length
3JackPot
7pot
:(a
:?
:Info
:Results(a
;oundEnd@
:TotalValue
5deProduc~(b
4ntBeneficiary
6Controller
6^ForApprove
>;
FFrom
4ob(a
7d
6CanCancelAfter(qbbaa
6Payments(d
6Status(qbbaa
6Value(qbbaa
5ckey(a
3KNCRateRange
?Signatures
4YCPayload(j
7resalePayload(j
6Verifica~&!
4ebabsSincelastKebab(b
5ccak(d
9256(a
5vin
5y(<ContentUtils.ContentMapping storage>a
8SortedDoublyLL.Data storage>b
7bbi
8c
7kk
6ID(re
6Length
6Value(bc
6s(a
4indOfPackage(b
6g
7Points
7domCount
:Informa~s(c
:Owner(c
:Type(c
5tties
7y(a
8Count(b
8GetOrNot(b
8Info(a
4nowledgeSinceLastUse(b
4rsFromApproved(ba
4tc!
4udosGiven(b
8Left(b
8PerProject(b
5n
6sByOwner(b
7Num
4ycApproved(a
6Hash(a
6Level(b
3LLV_edit_1
=0
=1
=2
=3
=4
=5
=6
=7
=8
=9
<2
=0
=1
=2
=3
=4
=5
=6
=7
=8
=9
<3
=0
=1
=2
=3
=4
<4
<5
<6
<7
<8
<9
4Og(a
4RC?(b
4ableList
8Records(d
5mbo(a
8Attributes(a
8Model(a
8sCount
5nd(a
7IdByKey(u
8nfo(a
7^(SS
7mark(a
5rgeBonus
=Stop@
5st(<SortedDoublyLL.Data storage>
724hSendingValue(b
7Ac~(b
8ttack(a
?a
=Count(a
8uc~Id
>WinsDate
>edShipId
>sWinningBid
7Bet
:Number
8id?
:ForCanvas(i
8lock
<Height
7CallKey
8omment(b
9nsola~Prize
:tract
7Data
;Hash
;Length
8ividends(a
@?
8uel1
;2
7FundId
7Game
;s
7Hash
9tch^(b
7ImageId
8ndex
7Kicker
7Lease(e
7Milestone
8ove@(k
7Node(b
9nPublished
7OrderId
>(b
=ndex
8utcome^(ba
7Payment
:outs
8layDate@(b
8resser
9ice(a
<FeedValues
7RegionId
9questId
9sult
9ward@(a
8oundResults_by_index(a
7SessionVote(ab
8tarOfAssetId(i
7Tag(a
8icket@
9er
9meUpdated
9p@(bd
8ranche
7UpdateId
7|
=(a
8eekStake(b
8inNumber
:ner
=Ticket
5test(aa
9Authorized!es(a
9Component(c
9Id
:temRaffleInfo
9Manifest(b
AByName(bd
9RaffleInfo
:eading(c
9UnitRaffleInfo
9Version
@(bdbd
5vaTypedDataHash(bbbaaaa
Ejbbbaaaa
5yerFromId(a
8NameFromId(a
4eader(b
9BoardData(b
9board(k
>Length
>Players
6se(ea
7tExpensiveCryptoGamer
AShare(aa
5dger(e
9Count(c
9NameHash
9Value(cb
5ftCoordinate(A
7$
7overWei(b
5gacyRep$
5nd$=
7er(a
9=(a
7ingItemInfo(ba
>Length(b
6gth
9ClassPlayers(aa
5vel
8(a
9b
9i
8Config(ii
8UpCost(b
4ibrary(a
5feCoin
7Rate(a
7Val
5mit(<Limits.Window storage>b
9k
8And^(a
8Period
8TypeOf(b
8ed=Of(b
5neData(a
;2(a
7Stat(a
8um(a
7arRelease
6glongCat(a
6kToPostId(c
7ed|s(b
5st!Holders
7Count
7Games
7Of!es
9Supported$s
7Team(a
;ByPlayType(a
9mpHolders
7ed$s
7ing(D
;l
:AtPosi~(l
:&!
:s
5ttAdminCount
7afiContent(da
5veMaxBet
4oan?(bb
7Config(a
9unt
<For!(b
7IDbyClient(a
7State(a
7ToDepositRatio
8uple(a
7Value(f
7s(a
8Count
8For!(ba
8LengthByClient
5calBounty=(k
8Game(k
6k(ba
7Account(b
>s
8mount
=(b
7=(b
8yId(a
;x(bi
:ndex(a
?ba
7Count
<For!(b
7FundsRelease@(b
7Info(b
7ListLen(b
7Posi~(b
?1(b
8roductCount
>s(a
7RecordCount
7Sdc
8ize(b
8tatus(b
7@(b
<e
;stamp(c
8okenSupply
<s(b
7WFee
7ed(q
9?(b
?_contributors(b
@dakehus(b
@investors(b
@jiedians(b
Bshis(b
@simus(b
9=
@ForUser(bb
9&(b
A!(b
9Eth
9Funds
>LastSpending
>Release@
9Stages(b
;ruct?(ba
?PulseLockHash(ba
?Start@(ba
?@ToLock(ba
9$(ba
>s(b
9User=(d
=Deposits(d
9Value(b
7s(a
9b
8?(ba
8For!(ba
8Length
9ockedFor(ba
8UnlockDate(ba
7upCell(b
5g(a
7baa
6Size
6ic(a
6os
6s(a
7Num(ba
5ngExtra
7Gap
5opLimit(aa
6tClaimed(ab
5ser!List
8sOnePercent(a
7sShare(b
6sesShare(b
6t$s(b
5tteryAtIndex(a
:=
;yID(i
:Data
;etails(k
AA(m
AB(m
:Info(b
:Money
:Winners
7oNumbers(a
8Result(a
5veLock(l
7rs(d
5wWinPercent(a
6erBoundBlocksTillGameEnd
7stBid(e
9GameWithoutQuorum
9Unit^IdxFromBuy
5yaltyPoints(b
4pAsk^
5Bid^
5IsWorking(m
4uck
7yPendingSize
8RecordSize
5nckyInfo
4x
3M5Reward(b
4C(a
4EA@
4HTHoldersNumber
6TotalSupply
4IRABALANCE
4ail(a
6nAccount(a
7=
7Lockup
7RemainCoins
7|s
7sale
5jorThreshold(Tb
8ityThreshold
5ke(a
7Count
7rBetBasicInfo(ab
;Details(ab
5nagementFee
9r
:(b
:s
6gers
6ifest(bda
>d
;ById(d
;Id(bda
@d
=sByName(bd
@Registrant(b
6ual!(a
9By!(b
9InvestorsCount
6y=s(g
?Packed(jb
7$=s(gb
5p
6(b
6pingID(cb
5rket
9(a
:b
:d
9ComissionRatio
;unt
:reatorMailbox
@SettlementFeeDivisor
9Data(b
=By$Idx(a
9Maker!From$(b
>Funds
>s
;nager!
9Op~s
:rder(a
>Category(a
>Trust(a
>Value(a
>WorkerpoolOwner(a
9^(e
9Size
9_CommunitUnused$s
Csed$s
9sCount
7up(a
6riage(a
;Details
6tialCardTypeIdList(a
:Info(a
:ListInfo
:Number
:Owner
5ster
9Copy
9Nodes(ba
>Dates(b
9piece(a
5tch(a
9e
8AtRoundIdAtIndex(aa
9wayPlayers(a
8BettingDetails(e
8Count
8HomePlayers(a
8Index(a
:fo
<(a
<List01
A2
A3
8Report(a
8SummarizeInfo(a
8ers_by_index(a
9s(aW
6ronId(a
5x(<uint128[] storage>
=6[] storage>
<256[] storage>
<32[] storage>
<64[] storage>
<8[] storage>
7a
6!es
7gonId
7mount
<ToWager(a
6Bet
9?
?(a
7usinessesPerCity(a
6CAP
7ap(b
;a
7laimableWei?
7ontenders
:ribu~?
6DropsPerTx
6Ether
;ToInvest
6FreeTeams
6Jump(a
6Loan?(a
@AllowedByLtd
8ck?(aa
@AllowedByLtd
8ssAfterTrade(baamm
Gmm
6Merge
6Owners(T
6Participants
8yout
7rice
;(a
;Sale
8ofit
<(a
<AsPercentOfHouse
6RankingSpots
6Send
7ize(<SortedDoublyLL.Data storage>
6Tickets
7okenAvaliable
8talSupply
7rade?
6Win
6imumBetAway
=Home
=Rate
:CallGas
;ontribu~Possible
:FundsInEuroCents
:Players
:Round(a
:StackCheck
7umInputEther
4eOutOfHere
>Stocks
5al(a
5dalInfo(a
8Type(a
8sBurned(k
5gabox(a
:Index
5lonAsset
5mber(a
:b
9AtIndex(a
;Key(a
9ByIdx(a
9Count
9IdxOfUser(b
:nforma~(e
9s
:Count
:OfTier(a
@Count(a
:hip^(e
=Status(b
=Type(b
6e(a
7Data(a
7Holders
7Selling^s(h
6o(a
7s(c
5nsaje(a
6u
5rkleLeave(<>a
9Root(j
9TreeRoot(re
5ssage
:(a
:Count
:Length(c
:MaxCharacters
:OfVisit(b
:Sender(a
:@stamp(a
:s
;Count
5t=
6ForEthResult(a
6aData(a
7Info(a
7data
;(a
=c
;Channel(c
;HistoryLength(c
;Of(a
;Url(a
<ser(b
6er(c
6hodState(c
9Value(c
6rics
4icro|!(a
5dgradeCarSupply(a
>sForVariant(a
5grateState
9ionAccount(b
5leagePoint(b
7stone(a
=l
<Bonus
<FundingPercentage(e
6k
5n(<uint128[] storage>
=6[] storage>
<256[] storage>
<32[] storage>
<64[] storage>
<8[] storage>
7a
6AllowedBid(a
7mount
<(b
<ToWager(a
6Bal
7et
9?
7id
9(a
6Cap(b
7ontrib
6DailyWithdrawLimit
6EthersInvestment
6Gas
9^
6Investment
6Limit
7ocked?(b
6Max
9Invest
6NextBet(c
6^
;Sale
7urchase
6Reward(c
6Sell(b
7kills(a
6Talent(a
6WeiForDInit
6ableSupply
6e
7Cooldown(a
7Genesis
7ableSupply
;$s
7rBlock
8Halving
?HashRate
GOf(b
:shRate(a
@CurrentHalving
8Id(b
8Level(a
8Offset
>Of(b
8al(a
:s
8sBy!(b
9OnSale
7sInfo(h
6iPoolEdit_1
@2
@3
@4
@5
@6
@7
@8
@9
7mal=(ab
:Deposit
8um?
@(b
:Bet
;ond
:CallCost(aa
>Gas
:Endowment
C(a
Ea
Fa
Ga
:FundingGoal
>sInEuroCents
:GasLimit
;racePeriod
:Purchase
BVZTLimit
:StackCheck
:WishTribute
7ngAttempt(ab
9Detail(a
:ifficulty
9Meta(a
9Rate(b
;wSpeed(a
:ealSpeed(a
;ward
?(a
@d
9Target
9UpgradeCost(a
7umInputEther
6tDelegates
8igest(ad
@d
7able
;!
7ed
9Counts
8r(a
7ingFinished
:PowerBy!(b
AId(a
:Status
6ute(a
5xedStack(d
6ingResult(aa
4nt$=(b
;sPerEth(a
6pMigra~(a
4obster(a
5del(a
7rator
6ule(b
:ea
9ById(a
;Name(c
@ed
9Id(c
9s
5narchyController
;Factory
6ey
8(a
9b
8Back
8line
8ness(maa
6ster(a
:CP(l
;lass(i
?Basic(i
;ount
:DexSize(b
:Gender
:IVs
;d(a
:Level(l
:Name(l
;um(a
:Obj(l
=Id(ba
:PowerLevel(a
:Return(l
:Stats(a
:s(k
6th(a
8lyTransac~VolumeReceiving
KSending
8s
5reAuc~Details(a
6tgageRate(b
5stExpensiveCryptoGamer
5td
6herCount(i
5unt$Ids(ab
Abab
5vie(a
4sgSender
7igner(dj
6Waiting(a
6s
4ultiLedgerValue(cbb
8Sig=
;|
8plier
=At@(a
8sig
5talbeInfo
7~(i
;ForRace(ei
4wLength
4y
5!
6llowance
6notherDragon
7thill
8s
6vailableWine
7erageDividendRate
5=
7nker
7t
6et(a
8RecordCount
8s(a
6ounty(a
6ulls
5Cards(b
8sIdx
<Count(a
7t
6ells
7nter
6hest
:(b
7icken
6lones
6oins
6rabs
8igGrant
7ocs
5Dino
7scount
7videndRate
6ragons
7ugs
5EOSKey
6ggs
5Fairy
7lcon
6ee(b
6ranklin
5GameCompleted(ba
9Info
6enes
6olds
6rapes
5Hipster
5IceDragon
6deas
6nfo
5Kebabers
:s
6ilo
6nowledge
5LandMultiplier
7stFreeLottery@stamp
9Score
6obster
5Money
6sg
5NmBet(aa
6ormalDragons
7te(l
9s(ll
5Pacifist
6layerID
7umbers
6oints
7licies
7ohs
6rize
7oposals
5Refund
7sult(i
7venue(a
7ward
6ice
8kAndMorty
5Sale^(d
6eeds
7llOrdersBlackMarketComplete
6hareholderID
:s
7itClone
7rimp
6nake
6perm
6quirrel
6tageBet(aaa
8ke
7ores
7rippers
6word
5Ticket(ia
;!es(b
;List(faa
;s
<(cb
7me
6oad
7ken=
:s
7matoes
6ransferredWine
6urtle
;s
5UnlockValue
7takenPrizes(i
5Vault!(b
6ines
6ote(ab
9ForCurrentMilestoneRelease(b
5Wager
6ine
5morties
5subscribers
3N
4Ballots
4CSTotalSupply
4VotesCast(b
4ame
7(a
8b
7By!(b
7Fee
7Hash
;(b
7Of!(b
8wner(c
7Picture(d
7d!es
7listLength
7s
8(g
8pace
<(b
5rco(a
8HomeLoca~(a
8Loca~(a
5tiveAsset
9Reputa~(b
4bSellOrder
5its(j
4eedLockFunds
@FromPeriod(aa
5ighbourReward
5tworkFee
5utralMuta~(i
BCost(e
5wCoinFee
:sIssued(aaa
7ustom^(bb
6DAO!(a
7efault^(b
6EnglandBets(b
6Game
7ens(ba
6MaxProfit(aa
6Period
7rice(aa
6Rabbit(b
6Shroom(a
6$(a
;^(a
6Voting(aogh
6s&!
F(a
5xt(<DLL.Data storage>a
9SortedDoublyLL.Data storage>b
8abaaa
8baaa
7BackUserId
9ttle@(l
8id
8onusIndex
7Call(a
;Sibling(b
Cd
8utoff@
7Double(b
8rop@
7Element(a
7FeePercentage
:Window
8orwardUserId
7GameId
=(b
8enera~Id
C(5
D6
7ImageId
7MaximumPlayers
8inimumBet
7Node(<GroveLib.Index storage>d
<Zd
<d
7Once(baaa
7PayoutEstima~
8rice(a
>a
=d
:zePool
7Rank(b
8egionId
8ules
7SellerBOTdata(a
9quenceId
8napshot@
7TournamentData
8ranscoderInPool(b
8urnColor(a
7UnsortedOffer(a
8serId
7VestingEntry(b
>Index(b
>Quantity(b
>@(b
4ickname(a
<b
5ne(a
6ja(a
4oContributors
5Investor
5OfSold$
5ble=
5dalblockData(c
=Sender(c
=@stamp(c
=URL
6e(<CLL>a
=m
9LinkedListLib.LinkedList storage>a
8aa
8b
7!(d
7Height(<GroveLib.Index storage>d
>Zd
>d
7Id(<GroveLib.Index storage>d
:Zd
:d
8ndexId(<GroveLib.Index storage>d
?Zd
?d
9fo(a
7LeftChild(<GroveLib.Index storage>d
AZd
Ad
7Parent(<GroveLib.Index storage>d
>Zd
>d
8rice
7RightChild(<GroveLib.Index storage>d
BZd
Bd
7Value(<GroveLib.Index storage>d
=Zd
=d
5nce(b
:b
9j
5rmalBuyers
9CardList(b
6sefire^
5tApprovedProposals
6e(a
9a
8d
7KeyByIndex(a
:sCount
7Line(a
7Owner(aa
7sCount
5vaOwner!(a
5w
6FromOwner
6@
:stamp
7oken^
8tal
6VestingType
4thBallot(da
4ull!
5m
6(da
6Accounts
7dd(e
8s
7nimalsXPlayer(b
DXType(be
>Type(e
7rtworksXType
6Bets(a
9tings
7ounties
6Called
7hips
7oins
6DesignatedReportNoShows
7ividends
7ragons
6Elements
7ndableGames
8tries(ba
7thOfferors
7venSplits
6Fulfillments(a
6Games
;Started
6Holders(a
6IncorrectDesignatedReportMarkets
8validMarkets
9estors
7tems
6Knights
6LoveItems
6Markets
8tches
7yTickets(i
6OfBettersForMatchAnd^(aa
8LotteryTickets
8RickHolders
8SalesWithSameId(q
8$sBonusOnPurchase(a
7rdersByOwner
>Payee
6Participants
8ssing$s(baa
8yments
7ieces
7osi~Opera~(cbc
7resale$sBought(b
6Records(b
8fundTransac~s
8gular$sBought(b
8serves
6Sides
8gs(d
:Owned(d
7ums
8ppliers
6Tanks
;Type(a
7eams(ke
7icketsPurchased(ab
:s
8lesFromBoard(k
7knOfferors
7okens(a
=ba
<ForContributorInternal(aae
<Purchased
7ransac~s
B(ba
6Winners
=(a
6ber
9(a
:b
:d
9AtIndex(a
9ByChoice(a
9Investors
9OfAvailableStartTickets
;Beats
=ts
?(a
<locksPerKick
ARemainingToWin
;Capsules
<hoices(d
<ontributors
<rySolObjects
;Deposits
;FirstBuyer
;GamesCompleted
;Locks(b
;Minters
<yGamesCompleted(b
;Orders(a
<utcomes
;Payments(a
<layers
BInCurrentGame
<urchases
;Scams
<hareHolders(a
@sFor!(ab
;$s
AForTheTeam
<ransac~s
;Votes(a
:ne
9Three
:wo
9sFromBytes(W
>Hash(d
>String(cci
Gk
:OfPick(ae
6eroCeldas
9Mensajes
3OAR
4NETIMESOLD
4TCTotalSupply
4bjBattleInfo(l
6ClassId(l
6Exp(l
6Index(l
8fo(l
6ective
5serverAtIndex(a
;Count
4ccupa~(b
4ffChain!es
;Root!
6er
8(a
9b
9d
8?(a
8Count
=(bb
=By$(b
8IdsBy$(b
8^(a
=Candy(a
=Eth(a
8ingByProposal(be
8or(a
8s(ba
;bb
9?ToBuyAll(bbab
ASellAll(bbab
6saleCount
7etIndex
4ldAllowance(bb
6=(ab
=Of(b
6ESOP
6FrozenAccount(b
6SchoolCoins
6_=Ofr(b
6est
4nSaleIds
6ellCardIds
5e
6Bet
7yOneRootHash(a
6DepositRec(a
6@Costs
7okenInWei
6WithdrawRec(a
4pGas
5en(a
7Bids(d
=<BookType>
=e
;ByBidder(db
=Line(d
7InterestInAttoEth
7Num(d
7OrderInfo(bb
<sOf(b
7ing@
>ByStage(a
6ratingBudget
:on(a
<Cost(a
<sNumber
9or(bb
;s
5inion(a
5~(a
:c
9!(babaaf
9Chain
>(a
:ount
9Hash(FJ
@yf
Bf
9Info(aa
9Pair(babaa
9State(FJ
Ayf
Cf
9al(t
9sForModel(l
4rCacheDesignatedReportNoShowBond
JStake
:MarketCrea~Cost
:ReportingFeeDivisor
:ValidityBond
6reateCurrentFeeWindow
;FeeWindowBefore(b
Ey@stamp(a
;NextFeeWindow
;PreviousFeeWindow
CPreviousFeeWindow
5aFee
6cle(a
9!ByName(c
@es
9ByName(c
9Data(a
9List
9MetaData(b
8izeCallback(d
;Fee
;Gas
>^
;PolicyId(d
<rice
;RoundGasFee
;WinnerGasFee
A@Offset
5der(a
:b
9ba
9d
9n
8!esForDay(a
8Cancelled(d
9ount
=(b
9reator(d
8Details(aa
8Filled(d
8Hash(<address[5]>R
=F2
=babaaab
Abaab
=dybf<uint96>
8Id(ebaabaaaa
9nfo
<(faa
8Length(b
8MoneyEscrowed(d
8^(bbaa
=Info(bbaa
8SharesEscrowed(d
9tate(n
:ring
8$Completed?(ab
9ype(d
8ValuesFromData(j
8s(b
5gInfo(b
6anizer
5iginByIndex(a
9alClient
;Owner
;Spinner^(a
4scar
4ut
6?
6come
:(d
:Count
:$Distribu~(b
?s
5verture_des_droits
=effective
4verPLayer
7$s
7all
7head
4wed(b
9b
7Dividend(b
?s(b
5lmasterReq
5nCard(b
6Fashions(b
6OrderByIndex(a
6PartnerMessage(a
7roducts
6$s(b
6ed
8AndTotal$s(db
9rea(b
9ssetsLength
8Bot(ba
8Count(ba
8Tanks(b
9oken(ba
=Ids
@(b
=s
>(b
>Ids(b
?ndex(a
>Length(b
7r
8(a
9b
:a
9c
9d
9j
9kee
9r
8AccessoryCount(b
9ddress
?(a
9ngelCount(b
9t(a
9uc~s(b
8=
?(b
?InMilli$s
9yAnimalId(a
8Cards(b
9ount
=(T
8Eth
8Funds
8Gennezise(b
8HoverText(b
8InAnyPlatformById(a
:dex(Tb
:fos
8Link(b
8Money
8Name(b
9ickName(b
8Of(a
:Campaign(d
<rdsCheapestWager(bb
8PetCount(b
9icture(d
:xelCount(b
9roprietaryData(a
8Server
8Team(b
9oken
=s(b
8VirusLength(b
8s
9(T
:ba
:e
9=
9Loan(b
9hip$Count(b
3PI_edit_1
<0
<1
<2
<3
<4
<5
<6
<7
<8
<9
;2
<0
<1
<2
<3
<4
<5
<6
<7
<8
<9
;3
<0
<1
<2
<3
<4
;4
;5
;6
;7
;8
;9
4K(a
4LAT^
4OOL_edit_1
>0
>1
>2
>3
>4
>5
>6
>7
>8
>9
=2
>0
>1
>2
>3
>4
>5
>6
>7
>8
>9
=3
>0
>1
>2
>3
>4
=4
=5
=6
=7
=8
=9
4RETDE$ExchangeRate(a
4VECooldown(a
6Dura~(a
5PCycles(w
6EntranceFee(a
6State
4acifistmasterReq
6k(a
7Buy(ba
7age(a
:NameOfCampaign(d
5id(a
8cb
7OrderByIndex(a
6ntedPixelsCountBy!(bi
8ing(a
;Artist(a
AId(a
;Genera~(a
;IdAtIndex(a
;Name(a
;Original(a
<wner(a
;Speed(a
6rInfo(bb
7SellLoyaltyPerc(bb
5nda(a
5ram(a
8eter(c
<sHash(<uint256[14]>
Badb
8s
6ent!
9Of(a
9PayoutDistribu~Hash
9Universe
:ser(b
6t(da
7ById(a
7ial?(aaa
8cipant
>(a
>=s
?y!(b
@Id(a
>Count
>Ids(caa
?ndex!(a
>Stake
>esA
@B
>s
?(a
7ner(b
:Alloca~(a
:=(b
:Cash(eb
@f
Abfa
:Info(a
:Message(bba
:s(b
7sOfOwner(b
?WithinRange(baa
5stBet(a
7Round(a
7Winner!es
=Entries
=Prizes
=@stamps
5tentFee(b<uint16[5]>
Ia
6h(a
8bf
6ron(a
9sCount
5used
5y?(bba
6IdAndHeld(a
6Table(k
7o
6carnita
6ee!(de
8=(de
8Count
8Expected?(de
8Index(db
7r
8(d
8String
6ment(a
<a
:Log(a
=N
:Of(b
:Supply
:ToAddRemoveCountry(cf
<tal(b
:s
;Count
;Held(b
6out(a
:b
9Distribu~Hash
9Numerator(a
9RoundId
9s(SS
;b
6roll
4endingAddReserveData
;mount(a
:=(b
<ttleRewardsCount(b
:CrateForUserByIndex(ba
?sForUser(b
:KNCRateRange
:Manager
:PartCrateLength
<yment?(b
;resale$s(b
:Reward(bb
:TaxData
;okens(b
;ransac~s
:Version
A@stamp
:|FeeData
;ithdrawal(b
5ople
5rcentBurn
:ageBonusForIco(a
=CW
6iod
9(a
9AliasFor(ab
9Bonus
;unus
9Locked=For(ab
9Minting(a
9OwnerLocked=(a
9Range(a
:eceived=For(ab
9SealedPurchaseOrderFor(ab
:tarted(a
9TotalReceived(a
9sToPay(dba
6missions
>(b
6siansBattlePoints
GBy(b
;OnTheBattlefield(b
7on(a
;f
:b
:i
9Parents(af
9alBonus(b
;Deposit!(b
;Info(b
;Status(b
5t(a
6ByIndex(ba
6CanPresellCount
8rdSeries(e
Al
7laims(l
6byTileId(ke
4hase
8(a
9e
8At@(a
8Count(a
8Start@(a
5iladelphiaBets(b
5oenix(a
6ne(b
4icksForUser(b
5ece(a
5xel(k
8AreaColor(aaaa
9uthor(ii
8Color(a
>kk
<ur(a
:unt
8Data(a
8Owner(kk
8^(a
>kk
8Text(a
9oken(K
8s(d
9Owned(b
5zza(a
4lace(a
8dNotes
6net(a
9Name(a
6t=
7formName
6yRecord(b
=NoTurnData(b
7edInfo(b
8r
9(a
:b
9Addr(a
=ess(a
Be
@ById(a
:ff(a
:mount(aab
:wardByRndNo(ab
9BackDataForMarketPlaceCards(a
;lance(b
:et(a
>ab
=cb
<Info(b
<Numbers(b
<Result(a
<s
:oardsIDs(f
:yBoard(de
9Card(e
=IdsForTeam(a
=sNumber
:lickCount(ab
:ount
9Data(b
>i
=By!(b
:efend(a
;tails(b
:ividend(b
AByRound(baa
9Energy(b
@i
?By!(b
9Flips(ba
:orCard(a
:rontDataForMarketPlaceCards(a
9GameInfo(ab
:uessNumbers
9ID(b
:d(a
<b
;By!(b
;OfIndex(aa
;s
:nfo
=(b
=By!(b
;ternal|
;ventory(b
9Jackpot(ba
9LAff(a
:ength
;vel(a
9Name(a
:umbersInGame(ab
9Op~
:wner(a
9PlayInfo(aaa
:oint(i
;rtfolio
:rice(a
9RefById(a
;maining@(ae
9Score(b
:hipBattleById(l
CLossesById(l
CWinsById(l
=Count(b
=ModelById(l
Endex(ba
=OwnerById(l
=s(b
:paceshipAuc~ById(a
I^ById(a
BBattleLevelById(a
IossesById(a
HModeById(a
HStakeById(a
MPaidById(a
HWinsById(a
BCount(b
BModelById(a
Jndex(ba
BOwnerById(a
BUpgradesById(a
Bs(b
:tate(a
=us(ba
:ubmissionFromCompeti~(ceb
9Team(a
>b
9Value(pe
;ults(a
9Waiting
9s
:(a
;e
:=(b
As
<ttleStats(b
:Collec~(b
<unt
?(a
?ByGame(a
:Fibokens
;romCompeti~(ce
:ItemTickets(b
:OfOwner(b
:Pick(c
;oints(b
:Tickets(b
:UnitTickets(b
5edge(ba
:l
9Admin(l
9Delegate(la
5ot(aa
7Data(a
7Info(a
7^
4ointOf(a
8er(a
5kemonBet(a
=@s(a
:CD(a
;urrent^(a
:Details(a
:Level(a
;ock(a
:Owner(a
5licyCount(b
9Data(a
:etails(sb
@ByHash(d
9State(a
7tician(a
6l(d
5ny(a
6ziFriend(b
5o(a
6hsSinceLastHatch(b
6l
7(a
7Admin(a
8mounts
8vgHatch^
7=
7CapSize(a
8ount
7Details
8one(a
;Count
7ETH=
7FreezePeriod
7History(a
>Count
7ID
8ds
8nfo
;(<PresaleLib.Data storage>
7Name(a
;ByID(a
7OverlapSize
8wners
7^s
7Rota~Delay
7Size
7s
5p(a
5rtfolioInfo(ba
7ion(a
<ab
5si~
;(X
<a
=b
<b
;FromBattleboard(ke
?Holding(a
;Id(a
;sAnd$sCnt(a
6t
7Link(a
7Poster(a
7VoteCount(a
7erInfo(aa
5tato
6ential?(b
<Profit(bc
5w(a
6er(a
4reAuthorized?(b
6ICO!(e
9Bonus
>?(aa
9FundersCount
9Length
9Percentage(e
7coBonus(a
9Funds
9Investment(b
?or(a
As!esCount
BCount
9Purchase(b
9$Holders!esCount
6RemainCoins
6Sale(a
:Data
:End
=Date
:Rank(ba
:Start
:$sAvailable
@Sold
7ignedHash(sbajaa
6cious(a
8sion
6dic~(aa
=s
6feredQtySold
7ixOwner(c
9^(c
9edHash(b
6miner(b
;Alloca~(ba
8um
:CarSupply(a
=sForVariant(a
;ents^Per30Days
;ount
:Factors(d
:Multiplier
:Pack(a
:Status(d
:s
;Available
6orderInfo
;s(d
6sale
:(a
:1
:2
:Alloca~(b
:End@
:Info
:MaxValue
:Number
:Raised?
:Status
:Total(a
7sCount
6v(<DLL.Data storage>a
9SortedDoublyLL.Data storage>b
7Block(j
7Hash(m
7RoundWinner(a
BCount
7iligedallowed(bb
8ousFeeWindow
;HashUint
;Node(<GroveLib.Index storage>d
@Zd
@d
;Seed
;Winner
As
5ice
8(A
9a
:a
;aa
9b
:a
:b
;a
<d
9c
:a
;b
:b
9d
9ee
9i
9t
8And@
8ByDayIndex(a
Ck
:MetadataUri(c
8Change(a
<nel(c
9ontract
8Feed
<sByOwner(b
9or(aaaa
8InData(aae
:Exo$s(a
:PastAuc~(bba
:$(bn
:Wei
:fo(b
8Of(a
:Campaign(d
:$InLastAuc~(b
9ne$
8Per$
9oint(a
=sLength
9roxy
8Rate
9iseAndFeePercent(a
8SMP$sPerWei
8Ticket
8USDcETH
8Volume(a
8Wei(a
9ithBonus
8s
9(a
;a
:bgg
:g
:h
92(aaa
9PerInterval(e
7ingEndsAt
:StartsAt
6v!
7acyCoins
8tePreSale$=(b
;urchaserStatus(b
:SaleEndDate
7ileged=(b
6ze
8(b
:aWk
8?
>(a
8By$(a
8Fund
8Numbers
8Pool
<Size
5oduct(a
;b
;d
:Count
:Data(b
:Earning(i
:HistoryDate(d
A^(d
AUser(d
:Opera~(cbaa
;rderPayer(a
:ion@Business(a
;vityCitizens(a
:s(a
6file(b
8t
9(b
9ForDay(aa
:romSender
9OrLoss(bbaa
9PerShare
<cent
@ForData(a
9Share(b
9To!(ab
9s
:(<bytes6>
;b
6gressOf!AndId(bi
6ject(b
:!(a
:Bonus
:Count
:Kudos(d
?ByUsers(dg
:Status(b
:Unused$s
;sed$s
:edJackpot
<Payout(faa
Ck
:s
6miseCount(bf
:Ids(aabf
7oCodeForEther(q
?Fish(q
8LOTEarnt(a
8~(a
6of(bed
8OfStakeReward(b
6perties(a
:y(a
;BecomePublic(k
;Colors(k
AOfRow(ke
;Data(k
Aaa
;EarnUntil(k
;Flag(k
;Info(e
;LastUpdate(k
Er(k
FBecomePublic(k
;Owner(k
@Sale^(k
;PrivateMode(k
FBecomePublic(k
FLastUpdateEarnUntil(k
;Sale^(k
<tatus(db
7osal(c
<dc
<kk
;?(kk
;ById(a
;&or(kk
=unt
;EthReward(db
<xecu~@(db
=ternal$(db
HReward(db
;Hash(baj
;IdByIndex(a
<ndex(a
Abad
;Length
;Objec~ByIndex(a
;State(a
;TTL
<extArrayLength
<ype(a
;ValueByIndex(a
<oterList(a
@VotesCount(ab
@sCount(a
?sCount(a
;s
<(a
<BySeller(b
<Count
<Num(ba
9e(b
:dIpfs(d
;Owner
6to(k
8IdBy$Id(a
8col
6veHash(bdcfada
7ider
;(b
;Badge(b
8sion=(a
6xy(b
4ubKeyByHash(<bytes28>
@c
9Hash(re
6licAlloca~
9BattlePokemon1
F2
9Data(a
9ForSecretFor(d
9KeyById(a
<Count
9Sale$sAvailable
:upply
8shed$s(b
;r(b
5nitoryInterest(a
6k(a
5ppetCount
7y(a
8Attributes(a
5rchasable?
:e!(a
<mount(a
;ById(c
;Count
;ETHNum
;Limit
;^(a
Ba
;Record(b
=turn(ba
;@stampEnds
;ableMode(a
;d(a
<$s(b
;r!Count
<Count
;s(ba
6eFromGene(y
6seContribu~s(aa
8Details(a
5zzle(e
3QrLength
4tyValidators
4uarterResult(a
5ery(a
8Fee
8^(c
6s~
;(c
;Index(a
;Vote(ca
?sAllCount(c
6ueLenght
<th
8Opening
5ickBuyEther$
;PathLength
5orumPercent
6te
8Asset
8^
8rs
3RN(a
4abbit(a
9DNK(i
9Mother(i
?Summ(i
5ce(a
8i
7BaseStats(a
7EndBlock
7Muta~(i
?Cost(ee
7r(ia
5fflePlayers(a
9Stats
9@Left
5ised
9?OnEther
A$(b
9Ether
9ForCurrentStage
9POLY
5mdomness
5nd(aa
7om
9(a
:ee
<b
:keb
9Box(c
9Card(ek
9FromBlockHash(aa
9Items(bc
9Number
?(a
Abaaa
@ba
@keb
@mm
9^
>(a
9Seed(c
6ge(a
6k(b
9a
701
82
83
84
85
86
87
88
89
710
7LandLimit(a
8ist
7^Candy(a
<Eth(a
7Title(a
7ing
5re(c
7!
7Coin!
7Info(a
8temInfo
;sOwner(a
<PLAT^(a
=rice(a
7PLATInfo(a
5te
7(a
9a
8b
9aa
:fa
9ba
8c
8dj
8e
7AndCheckCap
8t
9(a
;a
7ByStage(a
9@
7For(c
:External(c
7Ico
:WithBonus
CByDate(a
7ModifierInPermilles
7Now
7Scale
8tages(a
7UpdateBlock(b
7WithE(bfaa
;outBonus
7s(ba
6ioOf(b
5wPending?(a
4cdExchange(a
4dFee
4eadMessages(b
6l?Bonus(aaa
7Bet(a
7GoldBought
7RndMax@(a
7$?(a
7Usd?
7XaurCoined
7isa~
>_effective
7mNum
8Sale(a
5ceivedFunds(b
:r(i
;!
;Vesting(bb
;sCount
7ntActivity
9Players
@Count
6ipient
<String
6ommender(b
7rd(b
:dc
9AtIndex(a
9=(b
9Count
9Holder(a
9State(d
>RequiredChanges
9ing(ba
5dCards
6eemEst(ba
9edList
;Periods(dba
7mp~=
>lockNumber
=Request(a
=Status(d
6uce(aa
5f!
6BalSended
7onus
6Reserved$s
6|
6erBenefit(c
8ee!(b
9nce(d
<!esOfCode(d
<CodesOf!(b
<^(bb
AInfo(bb
8ral(b
;=
B(b
<onus(a
;Count(a
@s
;Of(b
;Pool
;Rates
;s(b
=g
9er(<Referral.Tree storage>b
<b
;!(b
;=(b
<onus(a
@$s
;Of(b
;Reward
6illPercFor(c
9StatFor(c
6und
9(a
:b
9?ForFunder(b
9Info(b
9TxFee
9ed
;(b
5gInfo(b
6ion(a
9BlockUpdatedAt(a
9Coordinates(a
:urrentImageId(a
@Pixel^(a
9NextImageId(a
9^(k
:urchasePixel^(a
AdAt(a
9UpdatedAt(a
BPurchasedAt(a
:rl(a
7steredAssets
=Exchanges
=$s
=User(b
As
9rantFund(b
=Id(b
=s
;~
?(d
?Right(b
?Status(b
:y
;Implementa~
;Version
6ularCarSupply(a
=sForVariant(a
9torLevel(b
5la~With(b
7yingKing
6easable?(ab
=Bonus?(ab
=Funds
9eAuc~End@(a
:Block(b
:Ratios(b
:@
>s(b
;ype(b
:d
;(b
5mainCoins
9LockedOf(b
9OfStage(ba
9Release@OfStage(ba
9Share?
9@
9ingAirdropSurplus!esLength
=mount(bb
<Bounty$s
<Capacity(a
=ompany$sAlloca~
<DaysToSecondPhase
BThirdPhase
<EthAvailable
?ersForCurrentRound
<Kingdoms
<Limit(b
Cb
<MineSupply
<Partner$sAlloca~
=reSales?
<Selling@
Doken
=upply
<@
@(a
@InSecond
@Of(a
=oken
AForArticle(c
As
B(b
=rialDrops(b
5ntOwed(b
5pMarketCapInAttoeth
6^InAttoEth
6$!
6ort@stamp
9edMatches
9ingParticipant(a
6ut(b
8a~(b
=Problems(bc
=Rewards(bbd
=$
5quest(a
;bb
;d
;i
:BaseInfo(a
;yIndex(a
<Requester!(b
:er
<Lock
:sCount
;Length
7ired(Tbafa
;Admin(T
;Major(T
<inor(T
;StateChanges
;$s(a
:ment@(b
5serve
:=(b
As
:Rate(bgg
:Supply
:d?(b
;Destina~Info(bdb
;PercentageDecimals(b
EUnit(b
;$Destina~List(bd
@s
A(a
Bb
Be
AListValInPercentage(b
TDecimals(b
TUnit(b
J$s(b
:s
6identNumber
6olverFee
7urce=(kb
<yId(a
;Count
;ERC20!(k
;Name(k
;SetById(a
>Count
;sInfo(b
6ponse
6t$=
7ar@
7oredTransac~Status(a
7ricted
=$s(e
6ult(a
:d
9Data(e
9Table(aa
9blockHash(d
9s
:(a
5tractable(r
6urn
9(bba
9!(b
9FromMonster(l
9@(a
9s(b
5venue(a
7ralSupply
8seFee(ba
:Rate(b
6isionBlockNumber(ra
;Count(r
6okeHash(ja
5ward(a
:b
:h
9?
9Matrix
9Rate(bb
9Status(b
9$
>Count
9s(aa
:&Hash(b
<unt(a
:Withdrawn(ib
4ich$(a
7est
5de(a
5ghtAndRoles
8Coordinate(A
8$
5skId(a
7Parameters(d
4nMmasterReq
4obotCountForUser(b
8ForUserByIndex(ba
8sForUser(b
5ckInfo(a
5le(b
8c
7Status(b
6lUnder
7ed
5mms
5om(a
7Count
7ID(a
8nfo(a
6t(b
5und
8(a
:a
8Available$(a
9wardTicketNum(a
8=(ba
9et?(aa
Da
;Number(aa
Da
;Origin(aa
Da
;s(k
9lockNumber(a
8Details
9ividendShare
8End(a
8Funds
8ID
9d
9ssued
8Length
8MaxNumberOfBets(a
;PerUser(a
9in?ByBet(a
8Number(a
@a
>OfBets(a
Fa
8OfSixteenResult(a
ATeams(a
9pen(a
8Pointer(aa
9rize(a
=Share
8Rate(a
9emaining
8Start(a
;te
<us
>es(k
8User=(ab
5yaltyExists(b
:Partners
;ercent(b
4unDetails(a
6Info
6ning
:Auc~s
:$Pairs(g
3SANOwner(a
6itized(c
4CF
4DCCSupply
4ECOND_STEP_MULTIPLIER
4MP$s?PerEthInternal(a
EWei(a
<BoughtInICO
<LeftForICO
4SP(b
4TODetails
4addle(a
5fe&(b
7Key(a
5le
7(a
7Auc~!
7Config
:tractDeposit!(b
MVerified(b
FEtherMax(b
Lin(b
?EndBlock(b
?IsFinalised(b
?StartBlock(b
?TargetEtherMax(b
Kin(b
@okensLimit(b
EMinted(b
7Data
;(7a
<<CrowdsaleLib.CrowdsaleStorage storage>a
=DirectCrowdsaleLib.DirectCrowdsaleStorage storage>a
<a
:e(q
=a
9y(a
:Now
7End
7Fee
8inancialData
7Hour(a
;Now
7Info
;(a
<b
;rma~
8sOn
7Length
7^
<(a
7Rate(a
8eturn(ba
7Sold(a
8tart
:tus
7s
8(b
8City(a
5mplesForJingle(a
=Owner(b
5nIdFromName(c
6Name(a
6PrevOwner(a
6Slots(b
6@Alive(a
:LastMove(a
6ageLink(a
6dwichInfo(a
?Calories^(a
6ityRate(bb
5tOwed(b
6$sOwed(b
5veData(b
7dReferral(b
4cam(a
5ene(a
5heduled@lockCount(b
7masLenght
8eParameters(bb
:ermissions(bb
5ientificData(a
5ope
6re
8(a
:ah
9b
8AndCount(b
8ForName(c
7ingMask(u
5riptsCount
4ealDate
6sonInfo(<uint32[99]>
5cond(a
9!=
;min
9PhaseCap
:oints
9RoundRelease@
9$s
9sRemaining(d
:ToComplete(qbbaa
<Expira~
6ret
9(a
:b
6~IndexFromIdentifier(aa
CRaw(aa
6ureFees
8ity$!(c
@Data(b
5edAndState(cb
7Cost(a
7^
7sSinceLastEvent(b
AHatch(b
5lectedName
6f=
7CardDatas
8ontribu~=For$Group(a
7GroupsContributedTo
6l
7(ab
7Ballers
7DailyLimit(aI
8emand(a
7Order(a
<^s
<sBlackMarket
HComplete
7^
<(a
=b
7Ratio
8eturn(a
7UnicornFull^(a
7Value(a
7able(i
7ed(a
8r
9(a
9!Payment(ba
9=sOfCurrentAuc~s(ggb
9FullInfo(b
9Of$(a
9Signature(c
9fee
7ingItem(a
>ByObjId(l
:Status(a
5miResult(a
5nc=
6dableEther
7er(d
9ArmyCount
=Details
9Cities(b
9Funds(b
9Lands(b
9s
:Calc$s(b
:Eth(b
5quenceNumber(ab
5rializedEmployee(b
6ver(a
9!
7ice!(j
:FeeDenominator
=Numerator
:Name(b
?d
>By!(db
>s(dg
:Provider
:Stat(l
>ByAddr(lb
:$!
:URI(b
5tNewTerrain^(aad
6ting(c
:!(c
:ChangeConfirma~Count(a
:Values
:s
;ChangeConfirma~Count(a
5venCount
5x(y
4hare
8(a
8=
8Holder(a
>Count
>sInfo(a
8IndexDebugForTestRPC
L(b
8$
=(a
=!
8holder(a
>AdressByID(a
?rray
CLength
>s
8s
9PercentForPeriod(da
@age(b
5ine(k
6p(a
7Auc~Entity(i
7Count
7Details(a
@a
?i
7Earning(i
7Name(i
7Owner(i
7^(a
>a
9oduct(i
>?ByModel(k
>ClassByModel(k
?ount
?urrent^ByModel(k
>EarningByModel(k
>Start^ByModel(k
7Sell(i
7TotalEarned(i
6tClonelordReq
5op(b
6w(a
7Text
;Bytes96
4ideServices
7s(ca
8Array(a
8ById(aa
5gnData(ae
8etails(ae
7Hash(d
7atory(ra
9ure(c
<AtIndex(ca
<Parts(j
<s(c
7er(bttnaedd
:da
;edd
9by
9sCount(d
7s(a
8Count(a
5ngleSubjectBy!(ba
6istre
;_effectif
5reId(a
7^(i
6ingWithId(a
5te$Id(aa
>s(a
<Length(a
5ze
7(<SortedDoublyLL.Data storage>
7ArrayType(el
4ketch(a
9esOnOffer
BWithHolder(b
;WithAuthor(b
?Holder(b
5in(a
4logan(l
6t(a
7s
4mallBonus
6rtCoins
4nailmasterReq
6kemasterReq
5c$!
;Issuance(aa
4oftCap
:InWeis
:Reached
7capReached
5ld
7(a
8ba
7AreasCount
7Item(ba
;Length(b
7$
<s
6ver(dc
9!(dc
5rtedArray(h
9Spot(<LinkedListLib.LinkedList storage>aaf
5undcoins!
6rce
4paceById(a
;ndex(a
8ship(a
<ProductAttributesByModel(k
CClassByModel(k
Dount
C^ByModel(k
CTotalSoldByModel(k
<TotalSold
<UpgradeCount
C^ByModel(ke
CTotalSoldByModel(ke
6rtansOnTheBattlefield(b
5ecHash(b
7ial!es
8ficTransac~(baa
:edComment(ba
<Decimal
6ll(i
8Ability(i
?Cost(e
6ndable(bb
7t?(bb
6rmlordReq
5innerData(ba
:^(a
7sContainer(d
5lit(aaaa
8Count
5onsor(<BBLib.DB storage>a
AV7.DB storage>a
;aa
:Fee
:sN(a
4qr(a
5uareWins(aa
6irrelmasterReq
4rcQty(bbaa
4tLength
5ack(d
6ge
8(a
80Cap
9End
9Start
81Cap
9End
9Start
82Cap
9End
9Start
83Cap
9End
9Start
8?(ab
?e
9ttributes(e
9vailable$s(a
8Bonus(a
?a
9yBlockNumber(a
8Cap(a
9losing@(a
9ount
8Data
9iscount(e
8EtherRaised
8Id
9ndex
:fo
8Limit(e
8MinWei?(a
8Name
8Sold$s
9tart@(d
9upplyLimit
8and^
6ke
8(aabd
9b
8InOutcome(d
8PerDraw
8dAudits(b
9=
9Shop(b
9Teller(b
8r(db
9Info(b
9sAnd?s
7ingGains(a
:Requirement@(ba
6mina(a
7p(a
6r(a
9cc
7DistanceInLyThousandths(e
7TotalSupply(e
7t
8(<DLL.Data storage>
9a
8Block
=(a
8ClaimDate
8Date
<OfCampaign(d
<s
8Ico@stamp
9ndex(l
8Lock@
8^
8@
<(b
8ing^
6t
7Games
7Lotteries
7e
8(a
9d
8ByProposalId(a
8Funding
8Hash(a
8Info
8Start@(d
7istics
7s
8(a
82
7us
9(a
;bb
:ba
9&(b
9Deal(d
9ForRootHash(d
9Info
9Of(b
;Payout(a
9;From
5eakPrize
6pFunc~(a
?Data(baa
7sCount(a
5ock=(ba
9uyOrder^s(a
8Count
8Key(<bytes6><bytes6>
8Length
8OrderInfo(faaa
9wnerInfo(b
8SellOrder^s(a
9hares(a
6pLock@
7Receive
7;(b
6rage(c
:!
:NameHash
7e
8(c
8!(c
?ById(a
8=
8sSinceLastUpgrade(b
5r(a
7c
6FromId(a
6ategy(a
;Count
;$AndWeightByIndex(aa
@ByIndex(aa
@Count(a
@^(aa
6ing(a
:c
:d
;d
9Hash(c
6ong
9(b
5uckCoin(ba
4ubOrderStatus(ab
6PayeesCount(d
6ject(a
:ClaimSetEntryAt(baaa
BSize(baa
;ountBy!(b
:MattersSize
6mission(a
=Bits(b
6scriberContentCount
DHashes
=Status
=Type
:p~(bb
@db
?To(d
5mOfGamblingPartiesBonusPool(a
8PlayerBetsById(aae
6Withdrawals
6mary
5ndownGraceTargetBlock
5pernova=
6pliers
8y
7ortManager
:ed$ByIndex(a
As
;rsForTopic(c
5rveyInfo(d
4wap(a
4ymbol
9(b
:c
9Hash
5nthesiza~Result(b
5stemAvaliableState
9Sale^s
3TDE$ExchangeRate(a
4OS(b
4ST$!
4XS!(a
6Value(a
4ag(ca
6ByModuleType(e
6s
5keOwnershipFee(a
7rBet(abab
5nkAuc~Entity(i
7Details(i
7Earning(i
7Name(i
7Owner(a
=i
7Product(i
7Sell(i
7TotalEarned(i
8ype(a
5pRemaining
5rget
9(c
:ds
9BNumber
:lock
>(a
>Length
>Number
>s
9RepMarketCapInAttoeth
9Supply
5xDataSignatures
4eam(a
8b
8e
8ke
74name(c
7Attribute(eee<uint32[11]>
7Ballers(b
8et(c
8yPosi~(e
7FromLeaderboard(ke
7Id(a
:c
8nvest(aa
7Owner(a
7Payouts(aa"

end Listing
end EvmFlow
