/-!
# Known signatures, part I
-/

namespace EvmFlow
namespace Listing

/-- Known signatures from `getTeamPlayers` to `isSTOProposed`. -/
def partI : String :=
"0getTeamPlayers(a
8rice(a
=h
7Salary
8umSkills(a
7$
<s
=(a
7Vault(b
7|s
7listSupportInTournament(a
7sOfOwner(b
9nLeaderboard
5chBonus1(a
<2(a
<3(a
5ller(b
9=(b
5mplate(a
;ByProposal(be
;Details
7oraryWinningFac~
5nancy(aa
5stek$Issuance(aa
5ther(ba
9Ints(ba
5xt
7(c
7Bytes96
7Count
4heBet(b
5ing(o
6rd!=
:min
8PhaseCap
8RoundRelease@
5ree
7shold(e
<sLength
8old
;(a
4icket
9(a
:b
9Count
9Details(maab
9HolderCount
?s(a
9Owner(a
?ma
9^
9Start^
9@(d
9s(a
;b
;c
;e
:AtAdress(b
:By!(b
:Count
?(b
:Left
:SoldToday
5er
7(k
7Id(a
7OfMember(b
7Posi~(b
7StartAndEndDates(bda
7Whitelist(bda
7s
5le(a
8k
7ClaimerAndBlockValue(k
7FromBattleboard(ke
7Hp(ke
7IDByOwner(kb
9byPosi~(ke
6l
5me
7(b
7BasedBonus(a
ARate
8onus
<(a
7FromPrize
7Left
;ToNextCollect(ba
ALocalBountyCollect(k
7OfLastBid
8utAuthentica~
7Passed
7SinceLastEvent(b
7TillEnd
7UntilEnd(a
<Start
7lock(b
7r(a
7s
8tamp
<(a
=b
>a
=c
=d
=j
<Proposal(d
5p(bd
5tle
8(d
8Deeds(d
6tyByWpId(ba
8Owner(a
6ulaire_Compte_1
E0
D2
D3
D4
D5
D6
D7
D8
D9
4knOffer?(a
;^(a
;or(a
5t^
4oday
8Index
8Owner!
=Name
5kePerWei
7n
8(a
:a
9b
:a
9da
8AddHold
;ress
?(a
?ByIndex(a
AName(c
ASymbol(c
?es
9lloca~s
<wance(bb
9mount
>(a
@a
?b
@a
>ForCampaign(d
>Of(b
9pproval(a
9warded
8=
?(b
Ab
:sicData(b
9y!(b
:Bid(i
:ID(a
;d(a
=e
;ndex(a
@ba
@dca
:MineID
:Name(c
:Owner(b
:Symbol(c
8Cap
9ontract
=ibu~(b
=olInfo(b
:unt
=(dc
>f
=ers(a
9rea~Rate
@@(c
=or(a
8Data(a
9ecimals
:scrip~(ba
Cs(bh
:tail
>s
8ExchangeRate
8ForCommunity(ba
;Invester(ba
;Team(b
Aa
8GroupTotal=(a
8Holder(a
>s
8IDRelateWithTx(d
9d(a
:AtIndex(a
:ByHash(c
<Index(a
:Of!AndIndex(ba
:s
;Index(a
;Length
9ndicies(bg
:fo(a
=bd
<Data
@Tracking
<MaxPerBlockImbalanceList
?TotalImbalanceList
<Nonce
=umToknes
<Signatures
<$List
9ssued(b
8Layers(a
9ist
<(beaa
<Length
9ockStatus(l
8Manager
9etaData(b
9inted
8Name
<(b
>a
<s(bh
9ext^(a
8Order(a
>bb
9wner
=(a
>b
8PerEth
9rice
=(a
=ForPeriod(a
=InWEI
=ListByIds(h
=forDapp
9urchase(b
8Raised
:te
<(a
<Ether
<s(bg
9emaining
:turnRate
8SCADARequiresHardCap
9ale@
=ype
9cope(a
9ettings
9izes(a
9old
<^(a
9takeByIndex(a
;ndard(b
;tus(b
9ymbol
>(b
8@(a
<lockCount(b
@Details(ba
9ransferById(a
@Count
@InsBy!(ba
@SetById(a
CCount
@Uuid(b
:ust(b
9ype(a
=b
8URI(b
;s(af
9SDRate
9pdatedCounter(a
9serCounter
8Value
8WithBonus(a
<drawHold
8s
9(a
;a
;b
:b
;a
9Acquired(b
:mount
?(a
:nd?s
:tCurrentRate(a
:vailable
BForSale
BToMe(b
9Back
:ought
:yGame(i
9&!
;st(a
;unt(b
9DistributedPlusTrickleDownBonuses
Ds
9ForContribu~(a
<Ether(a
Ce
A2(aa
<GraphenePower
<Presale
<Sale(f
=tage(aa
<Value(a
AInCurrentStage(a
CStage(ea
:romBuy(b
=Eth(a
>xchange(ba
9Holder
9IcoSold
:nAc~
:ssued
9Left
=ForSale(e
9Manual(b
:intedAt(a
9OfOwner(b
:nAuc~
;Sale(b
9PaidToGame(b
:erDay(a
<Eth
<Wave(a
:rice(af
:urchased
9Remaining
9Sale
:old
=(7
><CrowdsaleLib.CrowdsaleStorage storage>
?DirectCrowdsaleLib.DirectCrowdsaleStorage storage>
>a
>bd
9ToSend(a
;tal
9WithBonuses(af
5mbByOwner(b
7Detail(a
5p
6(a
610Messages
71_20Messages
6Bidders
6CompanyAtIndex(a
=BlocksInBetween
=Count
=StartBlock
B^
6Info(a
:Detail(b
6N(a
7ames
6Once
6Players
6Winners(a
6ic(a
8Count
5t(a
6al
8(a
8Accessories
@ySeries
:tiveStake(a
9irDropped?
9lloca~
<wed(b
9mount
>OfBlocks
@ChatMessages
@$s(a
>Raised
9ngelCardSeries
=s
9pprovers
8BPOf!(b
9alance
:ttleboards
9et
;?(dd
;s
9id(ba
;ded
9mcDays?(a
9onded
;us$sBy!(b
=es?Available(d
:rrowingItem
9raggedVolume
<s
9urnt
:yers
8CampaignsByCountry(c
:p
:tegories
9oinsAvailable
:llected
AWei
:mission(b
;mission(i
;posi~^(h
:sts
9urrentSaled
8Deposit
?s?Left
:veloperCut
?mentFundEarned
9iscount(b
;tributed
:videndPool
@s?
ARounds
9onated
=ions
9ropsOf(b
8ETH
9lements
9scrowed(b
9th
;Sended
;erPool(e
8FeeStake
9undsRaised
8Gambles
;es
=Participated
=Started
8HashRate
@Of(b
9eartsByDappId(a
8Ico$s
9n(b
:dividualWei?(b
:vest
9ssued
8JadeProduc~
8Leaderboards
9oans
:cked?s(b
:sses
8Matches
9igrated
:ned
9onster
8Normal$sBy!(b
9umberOf!esReceivedAirDrop
@Boards
@RegisteredCompanies
@$sForWinningOp~(a
Aransac~s
8Out(b
8Payments
;outs
9ctx10
9ercent
:tCardSeries
;s
9layers
9redic~(aa
:ize
:oposalsCount
8QtyIpfs!es
8Raised
:nk$s
9ecords
:wards(i
9ollMade
8SalaryBunny(i
9cientists
9ellingItem
:nt
9hares
9laves(b
9old$s
9pecials
:onsorship
C(a
9take
9upply
>ForType(a
8TheoreticalSupply
9oken
=Count
=DepositBy!(b
=Sold
>upply
=VotingPower(b
=WithdrawBy!(b
=s(b
>Against!(b
>By!(b
>Sold
:nsClaimed
8USDIn$s
9nPayedDividends?
:iqueCards
:vestedAndUnreleased$s(b
9sers
8Value
9esting
9olume
:tersCount
<s
8WEIEther
9eight
>edContribu~
9ins
:thdraw?
5urnament(a
=AdmissionBlock
>mt
=EntranceFee
=Rate
=State
=ThresholdFee
5y(a
4rade(a
:b
8Hash(babaa
8IsOpen
8Rate(bb
8mark
8r(a
:e
7ingInfo(l
:PairCutoffs(bbb
:Start
6iner=(b
<ttleInfo(b
;rick(b
:Earn(b
:Info(e
8ingLog(b
7t(i
8Count
6nche(a
:sLength
7formedId(l
7sac~(a
>AtIndex(ba
>ByTransac~AndEntityId(ba
KId(a
>ConfirmCount(Tda
Es(Tda
@unt(f
Ef
>Descrip~(a
>Fee(a
>Ids(aaff
Bf
AOf(b
>Length(Td
>^
>Success(Tda
8coder(b
=EarningsPoolForRound(ba
=PoolMaxSize
ASize
8fer(a
<b
=b
<d
=a
;AgentStatus(bdb
;Count
;Fee(ba
@ba
;Perc
;Rate(b
;Stat
?us
;@
;able(r
?=(b
;edUser(a
9ormState
6pInfo(a
7id(ae
6vel^(a
5easury
6eIds(b
7Size
;(<Referral.Tree storage>
7sOnSale
5ustPlatform
8Setting(b
8ed&s
4uber(a
5lip(a
5rn(a
8k
6tlemasterReq
5torialBabyGen(k
4weets(a
9Diff(a
5o
4x(ba
5?KWh(d
;MCW(d
6tIndex(a
5Count
5OrigMcw;(d
5PaymentKWh(d
<MCW(d
5@stampPaymentKWh(d
EMCW(d
5VoteDetails(d
5n(baa
6Num(ba
5s(aa
4ype
7(a
8i
7FromEdi~(q
7Name
;(i
3UBetCheck(b
<s
4Int(c
8d
9d
7Value(c
4NTSQM
4SD
6Btc
6ETH^
7th
6Raised
6T(a
5ETTotalSupply
4UIDS(d
4id(b
6AsInteger(b
6LastUpdate(c
5nt
7(bc
8d
9c
9d
7CoinProduc~(ba
7sOwnerCount(b
4mka!(b
4nReportedMatches
5approvedUsers
BTop150(f
6vailableTaker$?(d
5claimedBuyerFunds(bbba
<EtherIfAny(a
<Funds
<HalvingSubsidy(a
<$?(bb
6ompensatedContributors(aa
7rrelatedRN(a
5distributed=Of(ba
5finishedGames
6reezing^(a
5iCoinSize
6cornGenByte(aa
6que!ByIndex(a
9IdOfPlayerByPlayerAndCountryID(a
9LineCount(<Bid[]>
9Spinner^
6t
7AttackIncreases(ba
=Multiplier(ba
7CoinProduc~Increases(ba
EMultiplier(ba
7DefenseIncreases(ba
>Multiplier(ba
7Info(aaa
7JadeStealingIncreases(ba
CMultiplier(ba
7RafflePlayers(a
7s
8InProduc~(baa
8Produc~(baa
6verse
5lockSdc
9@
=(b
5paid
6rocessedQueryBytes32(a
CCount
CList
5readMessage(a
@Count(b
@s(b
AArrayContent(a
7deemed=(bb
5sold
9Owner
9Period
9Received(ab
9$
>s(a
?Back
?Val(a
?WithDecimals(aa
5used=(b
4pdatable(r
8e@s
5gradability(abc
9eAmt(a
:CardList(b
>sInfo(aa
:Info(a
:Pointer
;rice(a
:State
:Value(baaa
:sOwned(ba
5perBoundBlocksTillGameEnd
4riById(a
6Count
6SetById(a
9Count
5l
4sableXPA(b
6geDetails
5dCentsFromWei(a
6EthExchangeRate
5edCoreSupply
7PaymentSupply
7ReserveSupply
9veralSupply
6r(a
8b
7AccountInfo
8ddr(a
;ess(a
@d
>ByID(a
Ad(a
8stroIDs(b
8uc~Ids(b
8verageDividendRate(b
7=(b
?d
>OnEther(b
@$(bb
>s
?LastBet
9ttleValue(b
8et
:s
8lockNumber(d
8onus=(b
CByType(bA
9unty(b
8y!(b
9ID(a
9Name(c
7Cap
:(b
:In$Wei(bb
<Wei(b
9tegory(b
8ities(b
8ontract!(b
<ibu~(b
9unt
8urrentMartialId
7Data
;(b
;OnEther(a
=$(ba
8etails(b
8ividends(b
8ocCount(b
:Id(bi
7EntryStatuses
7FLCEarned(bb
8actory&!
8ee(b
8iat=(c
7Groups(b
7History(b
8otGold=(c
7IDBy|(b
8d(a
8ndexOnEther(b
>$(bb
9fo
;(b
;AndConfig(b
;ById(a
7Key(a
7LandLimit(b
8engthOnEther
?$(b
7Manager
8essage(b
7Name
;By|(b
;Of(b
8umEntries(ba
:bersOnEther(a
@$(ba
7Orders(b
7Pair(b
8ictureByUsername(c
@|(b
8ower(b
8roductAtIndex(da
>Count(d
>sKeys(d
8urchasing@(b
7Rank(b
8eac~(a
?Count
9ferrer(b
9quests
8oles(b
7Score(b
8ize
8paceIds(a
8tatus(b
8upportInTournament(a
7$s(bi
=ByGame(bi
?Match(bi
9talCredit(bb
<Paid(bb
<Sales(b
8ype(b
7Username(b
7Values(b
8erified(b
8ote(b
;s
7|(c
=ByID(a
?Username(c
8inInTournament(a
7id(b
7name
;(b
;For!(b
7s
8(bd
8AwaitingFor$s
ITop150(f
8By=
8Count
8ForDate(i
4uid(a
3VIA$s
5PCount
6Owner(a
6Rank(b
4alidClassId(lb
8Dura~BlocksData
@Nonce
@Signatures
8ator!(m
8ity
;BondAttoeth
6uable$?
7e
8(a
9bdb
9dd
8AndBox(b
8Bonus(a
=$s(aa
8Info(b
8OrZero(d
9verCurrentCap(a
8Payment(ba
7s$Issuance(aa
5r(c
6iables
<ForDapp
5tomOwner(c
5ultAccess(b
9ddress
8=
8Lock(b
4ending?Left(a
@Sold(a
:Info(a
:^(a
:Step^(a
>Qty(a
5rcodesOfCampaign(d
6ifica~Level
9edInfo(bc
:r(b
6sion
:ById(a
<te(a
:For(b
:Implementa~(bdbdd
:Length
:No(j
:s
;(bdbd
;Length
5sted(b
9Advisor$s
:mount(aa
@b
9=(aaaa
9Founder$s
7ing
:(a
;b
:?(ba
@ByNow(b
:=(bbb
:Cliff(bb
;reatedAt(ba
:Dura~(bb
:End@(b
:From&(bb
:PeriodNumber
@sCompleted(aa
:Quantity(ba
:ReleaseInterval(ba
ARate(ba
Ad?(bb
<vocable(bb
>keDate(bb
:Schedule(bb
BEntry(ba
;tart(bb
:@(ba
:|Length
:sCount(b
4ideoGameCurrent^(a
<Details(a
<ItemCurrent^(a
@Details(a
@Owner(a
<Owner(a
5llain(a
5neyard(cba
;Count(cb
5pBrokerNum
6Info(a
5rusLength
4ls$!
4olumeDiscountsCount
5te(a
9a
9b
9i
8bb
7Account(aaa
8nd@(aa
8tTxForUser(db
7By(b
7Commit(ab
9unt(aaa
=b
7ItemDetails(a
7Of(a
7^
7Result
=(a
8uling(aaa
7d(ba
8Data(bab
8$sPerc
7r(aa
:i
8Count(a
8Proposal(ba
@sCount(b
8Stakes(ba
8VotesCount(b
8s(aa
9At(aaa
7s
8(a
8Count(bad
8ForItem(a
?FromVoterIndex(aaa
8PerProposal
6ingDura~
9NetworkDetails
9Power(ab
9Result(b
9Start
<tus
9Winner(b
5ucherDetails(aa
3Wager
8(b
8Owner(b
5ifu(a
6tingState
5llet
9!
9=
9FeeSignatures
9Id(bd
9Out
9Resource=(b
9s(b
:Count
:FromUser
B(a
5rrior(a
:Owners(h
Aw
:s(h
<w
;FromIndex(aa
Eii
4eakenedDefensePower(a
6pon(a
9Entity(a
9Ids
9List
9Model(a
9sArmy1(a
>2(a
5ddingData
5ek
7No
7day(a
7lyLotteryParticipants(a
9Tickets(b
:ransac~VolumeReceiving
JSending
5i
6(a
6?
7vailableToReturn(b
6=
=(b
6Collected
6ForCent(a
7romUsdCents(a
6InCents(a
8vested(b
6Left
6Owed(b
6PerCent
:ontributor(b
9Satoshi
7riceByMetadataUri(c
;OneUsd
6Raised
6SoldToday(b
6ToUsdExchangeRate
8kensOwed(b
6ght
9(d
4hale(a
8Card
5iteListCount
<Status(b
8list
<At(a
<Limit(b
<Owner
<Status(b
Ddab
Eb
<Total
<User(b
<s
5oBet(baa
4idth(a
8rawPercFor(c
;StatFor(c
5ldcardsRemaining(k
5n(l
6=sOf(b
6Choice(aa
6Lose?ByBettingIdInGamblingParty(aa
IOwnerInGamblingParty(ab
6Numbers(a
6Results(a
6eProduc~Rate
7ryMappingID(cc
9Opera~(cba
6ner
9(a
:ba
:d
9Account
:ddress
@List
9Count
9Details(a
9History(a
9Info(a
9List
=Length
9Pot
9Team
=(a
9WithRank(e
9s
:(a
:Index(a
:Len
7ingChildUniverse
<oice(aa
;ount(aa
:Details(a
:Fac~
:PayoutDistribu~Hash
@Numerator(a
;redic~(b
<ize(a
:ReportingParticipant
:s
;(a
<ba
>a
;ForRecordId(aff
6s(b
5shContent(a
7IdxAt(ba
:esAt(b
7Name(a
7@(a
8ribute(a
5thFrozenStock=(ba
7draw(b
;?(b
;=
;Num
;Sum
;Value(b
;able?ANPES(b
FS(b
EFIIT(b
EPES(b
?=
?Dates
?Opera~FeeDatesAnd?
<l
=!
=CoolingPeriod
?unter
=Data(a
=EntryForFunder(b
=|
;ed(b
=$
6nessWeiCost
:es
<Count
5zzPandaCountOf(a
<QuotaOf(a
7Type(y
;Of(a
4ord
7(a
7Count
7Index(c
7s(a
6kSecondsInProgress
7er!(a
:ffecta~(b
9Index(b
9Pool(ba
=ByIndex(a
=sCount(b
:rofit
9Score(b
:tatus(b
9sCount
6lCupByID(a
6seOffer(a
9rderId(d
7tOrderId(eba
4rapped&
9r=
:Data
4wLength
3X2(a
4CPlugin
4NKPurchased
4PROMO_MULTIPLIER
4RateProviderLength
3Year
7(a
5llowCards
4ouTubemasterReq
3ZCount(ee
4TKCheck(b
;s
4ero(a
5thr$Bankroll(a
4odiac(a
5mbiesByOwner(b
:FullInfoByOwner(b
5ne(a
7Shop(Iq
7Teller(Iq
3_CountAllHolderForProfit
9Profits$
4FTVTOKEN_EURCENT(a
4Holders(a
;Profit(ab
Bba
4Release
4account_balance_eth(b
Dtoken(b
<id(b
5ddress(b
<c
6min_list
5ll_sellable_token
7owance(bb
5mount_buy(a
;sell(a
5sset_details(d
:event_details(da
?s_count(d
:info(d
5vailable_interest_amount
4back
6lance
;(b
=c
5et_nfo(a
7tor_nfo
5itcoineum_contract_address
5urned(d
4chronus
5oin(a
8s_count
6ntract(d
5urrent_price
4data_benefited(bc
9owner(bc
5eploy_fee
:ed_forwarders
7ositLock
;_balance(ba
<term(ba
4etc_balance(b
5xchange_wei
4first_asset_document(d
:global_audit_document
:item_in_state(d
:user_recast(d
5oreign_balance(b
5unds_left_for_reinvestment
4hash(ed
9k
5eap(a
8s(a
6dge
4info
8(a
9b
6ternal_block_number
4last_asset_document(d
9global_audit_document
Ftime
9item_in_state(d
9user_recast(d
5en
5ist_deposit_key(b
4mail(a
6ker_fee
5ember_info(b
5inimum_trade
5y_info
7tokens
4next_asset_document_from_document(dd
9global_audit_document(d
9item_in_state_from_item(dd
9user_recast_from_item(dd
4order(ca
9!(baaa
Ea
9_book_length(c
9s_sell_amount(b
5wner
9_planets(a
4parameters
5lanet_info(a
;price
7yer_state
5ool(a
5resale_goal
7vious_asset_document_from_document(dd
=global_audit_document(d
=item_in_state_from_item(dd
=user_recast_from_item(dd
6ice
9(c
5tc_count(b
5ublisher(d
4rate
5eturn_by_level(a
6ward(a
4shares
5take(d
7ts
8us_user(b
5ubmission_id(baahBB
?queue_length
4taker_fee
5erm_deposit_end_date
I(b
6st_data_length
8ing_index
5his_balance
5ime
8_locked_contract(a
H_size(b
8stamp(d
5okenReward
9@
9_data(a
>_buyable(a
:state
6tal_info
;tems_in_state(d
:supply
5rain_data_length
9ing_index
7nsferLock
4unlock_time
5sername(b
3addr(be
7ess0
6time(b
4ll
6_horsesCount
6resutl
4mountvotes
4rg_1
8_input
72
8_input
73
8_input
5ray_length
4ssign$sperType(e
3backTB(a
5lance
:(b
4etresult(d
<first(b
4lock
8RevenuePerTicket(a
4uy^
3can(b
6use(b
4oinSortinglength
7svotes(c
5ntract=
5olduwn(i
4urrNumOfCards
<Upgrades
4votesid(c
3decimals
5positValue
3emoji(a
4nddate
4therpriceinUSD(ba
3freezeAccount(b
5om(b
3gateway
3h(a
3info
4sPlay(d
3jackpot
3kEthPhiRate
4iller^ConversionFee
3lastJadeProduc~Update(b
4istedItems
3mortiesSinceLastHatch(b
3num(a
6Deposits
3oddAndEvenBets(aa
4st$
4wnerInfo(b
3periodlasttime(b
4otReward
4rice
6zeamount
5oductprices
8uct(a
3randoms
4emain$sperType(e
5sult(a
5ward
4oundendtime
3set
4ubscribersSinceLastHatch(b
3total_Supply
4ransferableStart@
3usedAPI
3value
3winnerloser
1gc(b
3d(b
1iantFYou(ba
2bLambos(a
2ff(ib
3t
4(ab
4Asset(ba
4=(b
4Car(baf
7d(ab
5ode(cb
4Eth(bac
4IdToGift(a
5sFrom
6To
4Message
4OwnerByIndex(ba
4Plot(aab
5ool
4RatioOf(b
5ock(ab
4SendIndex
5paceship(kb
5tar(ab
4$(b
9s(ba
4_ClaimTINAmotleyLine(a
6reateTINAmotleyLine(c
5;(ba
4er
4s(a
5OfOwner(b
2mmeEtherr
5Pizza
5Tendies(ba
2rlIdToAuc~(a
8Owner(a
5ndexToApproved(a
;Owner(a
2ve(ba
7cc
5cac
5db
5ga
6h
4Access(b
5ddi~al$s(ba
7ress
6visors$s(ba
5llBack
7ToCharity
5nimals(eb
5wayHoldership(b
8Ownership(b
8s(baa
4Back
8Ethers
6lance(aaa
6ttleBonus(ba
5irth(a
;a
<aj
;yy
9ByUser
5lockReward
9reward
5onus(ba
6unty(ab
:$s(ba
4Cat(Db
5hamp(ba
5onsent(cc
7tribu~sBackProfitBugged
4Directory$Allowance(aba
6vidend
4EthBankroll!
7Charity!
7Jackpot!
7er
7x!
4For(b
5reezePermission(gf
4GoldenTicket(b
4Item(ba
4Karma(acc
5ingdom(bcca
5udos(da
4MeBackMyMoney
6CDP(a
7oins(a
6ETH
6NILs
6SomeBBUCKs
6$(b
;s
6at
5ultipleItems(bh
AAndDestroyMultipleItems(bhh
AToMultipleRecipients(gh
4Nxc(ba
4Permission(bc
5rogect$s(ba
7ject$s(ba
4Refund(b
6gistra~(b
6ward(a
;ba
<ba
;dbe
5ightToVote(b
4@ToDemoc(dad
5o(ab
6ken(ba
<bf
<f
9Allowance(bba
9s(a
;ba
=c
:To(ba
4away(aaafb
8Addr
8Car(a
8Reserve
4candyfrom
9to
4n
5Bonus
7unty$s
A(b
4upBid(a
:d
2zerItems&
1k!
1la
3diatorToCooldown(b
;Power(b
@Bonus(b
;QueuePosi~(b
9s(b
2obChanceOwner(a
4al(b
6Admins(b
7mounts(a
6=(b
7et
7urn?
6ChanceNo
7onstraintsCount(b
APost(a
Bre(a
ARegisterPost(b
Jre(b
6DailySupply
6Investor(ea
6Locked
6Max
7etSupply
7in
6Operator
7rderSerial
6Pause(f
7resaleLimit
6SupplyAfterPercentageLogic
6@Vault
7oken;Lock
7ransferLock
1mt!
3Fund
7!
1nosis$
2t&!
1o
2BackToPreSale
:ivateSale
2NextRound
2Public
2ToNextStep
4Sleep(a
4Work(a
2al
4Achieved
4CompletedBlock
4InEthers
6crement
4Managment(f
5et
4OfState(a
4Reached
4Sale
4s(d
2d
3!
4utomaticCollectFee
3Bank
3Mode(bba
2ld=
5ought
:(abdccccc
4CertVerifier
5ontract
4Fee
7DataUpdatedAtBlock
4IssueBurnFee
4LevelBonusIsUsed
5istPeriod
4Migra~Indexes(b
=s(a
>Count
4Percentage
5rice
4Reward
4ToEur
6ken
4enTicketFound(b
<Moved(b
<Owner
<^(a
<Used(bc
7okenId
4mintTeam!
3emFactory
3ix
2o=Of(b
3DepositDivPercent
3dbye
4luck(a
4s(d
6ka
3gleSupply
3laTeam!
2tBonus(b
3Participants
3Result
3ake
3chinfo(b
3oNextState
2v
3ernance
6ingLaw
6or
3tAccount
1rabBooty
3ce
5Period
;AfterRound0Target
E1Target
<mount
;Cap
;MaxTarget
<inTran
;Start
@Block
=opBlock
5;(ba
3ndConsola~Rewards
5TotalAllocated
:Claimed
5_factory
4t
5(b
7a
8aa
:aaaaf
<f
;f
5Access(b
=b
=e
;Deploy(b
>osit(b
;For$
;Mint(b
6ddi~alShares(ba
7min(b
7visor$
As(b
<s$s(b
6lloca~(baf
9wance(ba
>ProxyAccess(b
6t
5Backer$
6onusDrops(ba
:$s(ba
7unty(ba
;$s(b
6urner(bf
5Coins(ba
7mpanyCoins(ba
7ntributor$s(b
5EditorRights(b
6nable
5Founda~$
:erTeam$
=oken
As(b
<s$s(b
5InitialAuthentica~(b
7vestor$s(b
=s$s(g
5Kudos(ba
5ManagerPermission(bc
7rketingCoins(ba
6ultiplePermissions(bo
6ythex$s(ba
5Of(b
6wners(b
;hip(b
5Per$GranterVester(bbb
8mission(bd
6oolRole(b
6resale$s(gh
7ivatePurchaser$
7omoPack(be
6urchased$s(b
5ReserveSupply
<$
A(b
As(b
5Service(bb
5TeamAdvisorSupply
@$(b
9$
>s(b
6oAllowBlocking(bf
7SetUnpaused|(bf
7ken(ab
;baaaa
:StartNow(baaa
:s
;(b
=a
6ransferRight(b
7ophy(bd
5UserRole(dcb
5Vested(bb
;EDEX&
;$s(baaa
Faf
Hff
Dlll
Gff
5XP$s(ba
5_token_from_offchain(bac
5ed&s(b
7Locks(ba
7ParsecCredits
7ToAllowBlocking(bb
9SetUnpaused|(b
9kensHardCap
5s
6(b
8a
6Controller
7reated
6Start@stamp
6Unlock
4ularPreallocate(baa
8ity
3pesToBuildWinery
8ProduceBottle
4henRestrictedDate
3vatarToOwner(a
8s(a
2eedyowner
4n$
5shoeActive
4t
5er(c
8d
3yIndexToApproved(a
;Owner(a
4$
4list(b
8Many(g
2g(b
2id(a
6a
3efCost
3p|
2oom
5Addr
5SignedAt
5Vow
3up(ba
5Array(a
5Info(i
5MemberInfo(ib
5Name2index(d
5_pools(a
5s(e
6Blocked(d
6Count
3ve!
3wCost
4Weed(a
4th
6&
6Reserve
=$Send(ba
6$sPercent
<|
1uagua
3ranteedBuyersBought
F(b
@Limit
E(b
:Contribu~s(b
Cors(a
4dInterval
=Finished
5Villain(aa
5arDocumento(cdd
5edArrayReplace(jjj
5ian1
9Vote
82
9Vote
83
9Vote
5s(a
4enteedPayback@
2bberment
:Overthrown
2ess(a
6e
6h
5Number(a
5Seed(a
5es(a
8m
4taddress
2hb(b
2ideInvestmentAttractedShareToPay
5RewardToWithdraw(b
5sStat(b
2nsFund
8Deposit
2pSold
3$
2r(bb
2thaben(b
8Anzeigen(b
1vAgent
2Op~$10
=20
=30
2$
2pe_per_Keos
9eos
1wei
4BBD^InWei
1x
2c
2s(a
1y
2m&
3Fee
3Trainers(e
2s(a
1zeFromEth(aa
3PerEth
2s(a
0h
1PayMultiSig
1_pwd
1ack(b
4Adept(b
4Decisive(ba
4Educated(b
4Tenuous(b
2dd(nn
2lfMultiplier
4yearteam
<_trade_date
3t
4Crowdsale
4DirectTrade
4Fundraising
4ICO
5EO
5co
4Purchase
<s
4Sale
4_purchases
4ed
6IEO
4ing
4s
5Trades
3veEntry^
5MinQuorum
4ingCycle
7Interval
7Period
7StartBlock(a
8ubsidy(a
2mmer
2ndToCards(i
4break
4leBet(a
6EarlySaleBuyers(gh
7xternalBuyers(ghhh
6Fees(abb
7or$Id(a
7und
6Index(dd
6MultipleItems(baaaaa
6OffchainWhitelisted(bj
6Payment(ba
7resale$(ba
BMany(gh
8oduc~Decrease(ba
@Increase(ba
6RefundRequest(b
6SaleClaimCallback(ba
;omple~Callback(a
7ingleItem(baaaa
6@dTransi~s
7okens(b
<FromOther&s(bba
<Received
6rWhitelist(b
3k
2raKiri
3dBurnSMS(ba
4Cap
7?
7CHF
8rowdSale
7Dividends
7ETHInWeiValue
8ther
7FundingGoalInCents
7Hash
8igh
;Usd
7Ico
8nCents
9Ether
9$
>s
9USD
9Wei
7Low
:Usd
7PreIco
:Sale
9ice
:vate
7Reached
7Sale
7@
8oken
<s
=?
8xWei
7USD
7Wei
7s(a
4FundingGoal
4LimitICO
4Participa~Cap
4WeiCap
5ithdrawAll
4_cap
8_wei
5limit
4cap
7Changed(h
7InEth
<er
9$s
9Wei
7Reached
7USD
4ware|
3iKari
3vest
7(a
8b
7Opera~Endorsements(da
7QuorumPercent
7abledivs
7s(d
2s
3(b
5c
4dd
3Access
9(be
6ountPendingOrders(b
4ddressAssignedResourceChecksumPair(ba
:VotedInBallot(ib
4ids(b
4llAttrs(aI
6ocated
7wanceToRecieve$s(b
5readyClaimed
:Played(b
4nyAttrs(aI
4pproval(bb
4ssetRights(bd
4uth(c
3=(b
<a
4eenApproved(ba
7Claimed
8onstructed
7Deployed(b
7Revealed(ba
5t(b
4ooster(b
5ughtEgg(b
4urnedKitty(b
5yNowOffer(a
6Total
3Claimed(b
<a
:FreeReferralPack(b
:$s(b
5osed
4ollectedWinnings(b
5mpleted
5nfirmed(b
=db
?a
<Record(d
6tributed(b
6verted(b
4rowdsaleFinished
<Started
3DNN(b
4efaultRelease
4irectorAccess(b
4oubler(b
4riverJoined(<RaceLib.Race storage>b
4uplicate(c
3Edi~InProgress(a
4mployee(b
6tyEdi~Slots(a
4nded
8(a
5ough(ba
9Allowance(bba
9BST(bb
:alance(ba
9FundsToStart
9$sLeft(a
5try(b
4rror
4xpired
5tension(b
3FetchedProfit(b
4inished
5veStepWithdraw
7YearWithdraw
4orgivedChar(c
5urStepWithdraw
7YearWithdraw
4reePlaces
4unded
3Hash(a
3ICOClosed
6Finished
4coEnded
6PhaseOneEnded(a
4dentity(b
4nitCard1
;2
7Martial
4tem(aa
3ManagerAccess(b
4emberAccess(b
4igrated(b
4oderator
3Name(b
4ext(<Iterator>
7Key(a
7SeedHashA
?B
4otEnded
3OfferingStarted
4neStepWithdraw
6YearWithdraw
4pened
9OldCrates(b
7ing
4racle(b
5deredRobotParts(h
4wner(a
8Access(b
8ship(a
3Parameters
6ticipated(b
5stFreez@
5yroll(b
4ermissions(b
4hysical!(b
4layerWagered(b
4oolRole(b
4reICOClosed
6SaleEnded
6saleEnded
7tige(b
6viousVote(ab
5iorDuplicate(ca
5ofilePicture(b
6of(d
4urchased
<(bb
>d
3QuickBuyEther$
3Random
5te
4eadership(ba
5ceived(b
7nt^(b
>s(g
6ord(b
5deemed(ba
5la~(ddb
5quested(b
<ForMigra~
7iredStateChanges
5sponded(d
4isk(bbbaa
4ole(bc
9db
8c
5undBeenWithdrawn(a
3SDC(ba
6C(ba
4antaCoins(b
4ecret(a
5llerGuarantee
4oldOut
4take(b
6rted
8ingSnails(b
4uicided
3TeamKeepingWithdraw
5rminated
4hreeStepWithdraw
8YearWithdraw
4okens(b
4rade
4woStepWithdraw
6YearWithdraw
3UnlockDatePassed
4pgraded(b
4ser(b
7Role(be
7Won(eadd
3ValidParam(bllllll
9rofile(b
8Subscrip~(db
5ultAccess(bb
4erifiedAttributeIndex(ba
DValue(ba
4oted
8(ab
9ba
:b
9db
3Winner
5thdrawn(b
<Fees(b
<LastPeriodFees(b
<Rake
4on(b
3_contract_ended
=started
4donated(b
4presale_started
<time_ended
4reading
4token_sale_started
?time_ended
4voted(b
3h
4(<uint64[8]>
5aa
7aa
5c
5d
4Arguments(bttna
5ttesta~s(db
4BetMax
7Sum
5ytes(j
4Claimable(d
9ed(d
4Delegated;(baaa
5ifficulty(d
4Exists(c
;d
4First
5orNamehash(d
4IdToMultisig(d
8Swap(d
4Key
4Last
5ist(d
5oop(ad
4Next
5umber(e
4OfTheDocument
5rder_(<address[7]><uint256[9]>eeeejjj
GLeeejjj
4Pass
4Registrar
4Secret
5tate(baa
6ring(c
4Test(c
5o256(d
6Sign_(<address[7]><uint256[9]>eeeejjj
5ransfer(bbja
5ypeIdLookup(d
8s(a
:e
4Verifica~(d
4_ack
5db(d
5msg
5passcode(d
6ubkey_to_pubkey(aa
5ripemd160(ca
5sha256(ca
83(ca
4edParameters
5r(bda
5s(a
7b
7d
7k
6Length
6Size
6Used
4imoto(duahhaa
<hha
2t
3chCoins(b
5Dura~By@s(a
=MultiByGenera~(a
5Egg
8(ac
8s(b
5Max@
6orties(b
5Poohs(b
5Seeds(b
6tart@
5ery(b
8Banker(b
:t(b
9ulls(b
8CHICKEN(b
9at(b
9hicken(b
9raigGrant(b
:ocs(b
8Dino(b
8Fairy(b
:lcon(b
9ranklin(b
8Hipster(b
8Lobster(b
8Pacifist(b
9lumber(b
8Rice(b
;kAndMorty(b
8Shrimp(b
9nail(b
;ke(b
9quirrel(b
9trippers(b
8Toad(b
9urtle(b
>s(b
5ingEggs(b
8Speed
5subscribers(b
2ult
2veCommonPrefixUntilZero(dd
4Extension(c
4IBeenNaughty(b
5Won
4dAirDrop
5CrowdCoin
5DistDevCoin
9FoundCoin
3ven
6_escrow
6sReceivedForEther(a
BNomins(a
1div(nn
1ead
4erColor
3l
4thCheck
3pSort(<uint128[] storage>
?6[] storage>
>256[] storage>
>32[] storage>
>64[] storage>
>8[] storage>
3rtBeat
5beat
9@out
2dge!
2ight
3r
2ld=Of(b
4Of(b
4Payments(b
4@line(b
5okens(b
6tal
3l
4o
5World
3pBlue
4Coin!
4Red
4Withdrawal(b
4er
2roClasses(i
5ontract
6re
4Data(a
4IdToBuyer(a
8Health(a
8LastRound(a
8Monster(a
8RefundedFee(a
5ndexToApproved(a
;Loss(a
;Owner(a
;Win(a
4Lottery
4OfThePit
4$&
4es(a
2xStrToBytes(c
1gs
2t
3Decimals
3Rates(a
3Sold
1ibernate(a
2cs$
9^
2ddenCapTriggered
6Owner
2ghBidder
4Compose(aaa
6ntribu~Award(b
4EtherBonusLimit
>Value
4Funding
;GoalReached
4Score
4@BonusLimit
=Value
5okensToSellGoal
4est!Reserving
7=
8et
8id
:!
:IsCC
:Of(a
:^
:@
:der
=CC
=Of(a
9ndingBid
7Contribu~
7^
7_bid
;der
2jack(aa
6Clones
6^
2nt
4(dcr
4URL(dc
2pstermasterReq
2re(ba
4BountyHunter(a
4d
4rCancel(qbbaa
5LastResortRefund(qbbaa
5ReleaseFunds(qbbaa
2storicPricing(a
8alDelega~s(a
6y(a
7Blue(a
7Count
<Of
7Id
8t
7Payout(b
7Red(a
7@sPlayed(b
7Winner(a
2t
3(a
3Founda~=
=Precent
3Mobster(aa
3^
2vePerEther
7USD
1max(nn
2c!
2in(nn
2ul(nn
1odl
4(aaa
5baaa
4Added(abaa
4Countdown
4For1y
72y
73y
4TillBlock
5okens(baa
4_interval
4er
6Reward
6Stakes(b
6@3M
:6M
:9M
:Start
7otalCount
;Value
@3M
@6M
@9M
7ransfer(ba
6s
7(a
8b
7Count
4ing
4s(a
2es(a
2gsmash$
2ld
4(a
5b
6a
4!1
;2
;3
;4
;5
5mount
4=Of(b
4&
4End@
4Max
4Period
4Subscrip~(a
@Offer(a
4@
8(b
5okenInvestors(a
BCount
9s(b
:OnStage
4_balances(b
4ed(b
6Of(b
5r
6Added(ab
8visors$s
7mount
7t(a
6=(b
7ounty$s
6&
8unt
6Ethers(b
7xists(b
6Group(b
;Number
6ID
8(b
7ndex
;(a
<d
6List(a
;b
6Marketing$s
6Number(b
6Of(a
6Partnerships$s
6Referal$s
;rer(b
8serve$s
8ward
6Step(eb
6Team$s
6_balance(b
6s
7(a
8b
7Allocated?
7Bonus(b
=e
7Count
7Index(a
8ter(a
7Order(b
4ing(a
7Tax
:Decimals
:Interval
8oken
7s(a
9b
8Of(b
:_BEAR(b
<ULL(b
8_BEAR(b
:ULL(b
4over=
4s(b
3yBountyFundDeposit
4FoundersFundDeposit
2me
4Team
3mie
2n1ninja
32backup
3estisFort
<backup
3ourWhitelistEnd
2okOperator
4able$!
2p
3efuls(a
2ras
3seFS(a
6orSale(aa
5Index^(a
5Master
5NotForSale(a
5OwnerIndex(a
5Pr(a
5ShoeFS(a
:orSale(aa
9Index^(a
9NotForSale(a
9Pr(a
5s
5ys(a
2st
4Account
5ddress
4_claim_earnings(b
5lottery(d
5percentage
5reveal(a
4ingProfit!
2tPotatoHolder
9Prize
3Store
3|
9!
3wallet!
2ur
4Pot
7Expira~
7Highscore
7Leader
4_blocks
4lyProduc~
6Rate
4sCount
3se
5!
5=
5Commission
6redits(b
6utPercentage
5Earnings
6dge
9Divisor
5Fee
8(a
8Holdover
8Threshold
8Val
5Keep
9(ma
9ing
5PercentOfTotal
6rofit
5Stake
5TopUp
7tal
6raits(aa
5Withdraw
5_edge
6fee_pct
5edge
5info
5s(a
2w
3Coin
3Many
7(a
9a
7Dicks
7EtherInWeiToBecomeOwner
CChangeSymbolName
CKill&
<sToBecomeOwner
?ChangeSymbolName
?Kill&
7Fees
7Guaranteed
7OwnersDecide
7Ships
7Tanks
8okensForEther(a
7Voters(d
4uchCanIContributeNow
:XContributeNow(b
7InEscrow
7$sAvailableForExchangeFromStock
1sub(nn
1ugeContribu~Bound
2man
5StandardByteCode
5_readable_blockhash(a
5iq$
6tyFund
2ndredKInvestor
7Percent
7times
3gry(a
3terLicenceEarning
6Of(b
6s(ba
2rifymint(baa
3mint(ba
1ybridiza~Exists(a
=List(a
ASize
=^(a
=s(a
2dro&
5PartnerMap(ab
5StakingMinimum
5$!
2pe
4s(a
0i
1Block
1Co$sSold
1Distribu~
1HaveABiggerDick(cc
1ICO
1MMCoinbuy^
7sell^
1Owner
1@
1WantXKeys(a
1_am_generous
1aInvestedBy(b
1bcDistributed
3Funded
3Vault=Of(b
1ceDragons(b
3Fund
7Deposit
3d=s_defrosted(b
=frosted(b
2nq
2o
3(aaaahh
5ba
7a
31Ended
4$s
4_startdate
4cap
4end@
4receivedTotal
4st^
4total
32Ended
4$s
4_startdate
4cap
4end@
4nd^
4receivedTotal
4total
33Ended
4$s
4cap
4end@
4receivedTotal
4total
3Abandoned
4ccount
:s(b
5tive
4ddr
7ess
:1
:es(b
7s(b
4gent
4lloca~
=(a
4mountBonus1
>2
>3
4rray(a
3Backend
5lance
:Of(bb
:s(b
4eginDate
8time
4onus
81
9EndDate
82
9EndDate
83
9EndDate
84
9EndDate
85
9EndDate
8es(a
5ttomInteger^
4tc
4uy
6ers(b
3Cap
6InWei
6s(a
4heckup
4lose
8d
9Manually
4oinCap
7Received(b
7sReceived(b
5llected
5mpleteB
5ntract
;!
8ibu~s(b
4rowdsale&
3Days
4eadLine
7line
5nominator^
4iscountLevel1
@2
;PercentageLevel1
J2
J3
;@
4ura~
3Enabled
9rs$sMinted
5d
6(f
6At
6Block
6Date
:time
6Line
6OfStageA
=B
6@
:s(a
;tamp
?Stage
D1
D2
D3
D4
6Unfroze$s
8ix
6ed
6s
7At
6time
4th
6er=s(b
8Contributed(b
8MaxCap
9inCap
8Received
@MainSale
HDay
@PreFirstSale
CSecondSale
BivateSale
@Total
8s
9(b
3Finalized
<(a
6ish
9@
=stamp
9ed
;At
;Date
4undingRatePredic~BonusInPercentage
3Goal
3HardCapInWei
7cap
5sEnded
6hedPass
4older
3InProgress
5stalled
5vestment(ba
@a
=s(b
>Count
9ors(b
<!es(a
4sClosed
5Finished
=Date
5Over
5Running
3Launch@stamp
4eftSupply
4imit
4ocked=(b
4tc
3Manager
5x?
6Cap
4in
6Cap
6Invest
6imumWei
3Number=Of(ba
6erator^
3Open
7ing@
4ver1
72
73
74
75
7ride
7view
4wner
3ParametersSet
6t
7ner(ba
5used
4eriod
9@
4hase
81End
<@
9Start
9@BonusInPercentage
82End
<@
9Start
9@BonusInPercentage
83End
<@
9Start
9@BonusInPercentage
84End
9Start
8?1
>2
>3
>4
8Countdown
8DiscountPercentage1
J2
J3
J4
8@Interval
8s(a
4latformWithdraw(a
4ool
4reEnded
5ice
8(a
8_
5oceeding
=(b
4vtEnded
3Raised
9ETH
5te
7s(a
6io
4eceivedWei
5ferralBonusInPercentage
5serveSupply
:dSupply
4ound1
82
83
84
85
86
8s(a
4uleAdd(aaaa
7Cancel(a
7Update(aaaaa
5nning
:Status
3Sale
7Deposit
7HardCap
7SoftCap
7sSupply
4ender
4ince
4martcontract
4oftCap
:InWei
7cap
5ld
7Cap
7$s
4pecConfirmed
4tage
81Deadline
8s(a
6ndard^
6rt
8(f
8At
8Block
8Date
8P1
92
93
94
95
96
8@
<s(a
=tamp
AStage
F1
F2
F3
F4
8Unix
8ed
:At
:@
8s
9At
6te
7us
9Updated(bc
5op
7pedManually
4ucceed
:ed
8ss
:ful
5pply
3Target
4hreshold1
<2
<3
<Bonus1
A2
A3
<Reached
4ill
5meBonusPhase1End
A2End
7Start
4oken!
9mount
8Cap
8ExchangeRate
8Holders(b
?!es(a
8Limit
8^
=(a
8Received(b
8Sales
9upply
8;s(b
8s
9Count
9Issued
9Left
9^
9Received(b
9Sold
9Unsold
5tal?
8=
8Collected
8Supply
4ransfer(ba
3Unit^
4sd
3|
9!
5sSuccessful
4eek1Bonus
72Bonus
73Bonus
74Bonus
4ithdraw
3_PRICE
4address
5lloca~
4balances(b
4distribu~(ba
4enddate
4finish
4investor(b
4period
5romo_reward(ba
4rejected
4stage
7rt
9@
9date
9ing_supply
4tokens
3ed?
3funding
3n
4Rate
4$
4icChecklistItems(a
6sCount
5qSaleOngoing
6$
4omi$Supply
3start
8ed
2s$
1d
2(<$>
9Lib.$ storage>
22Addr(a
3Players(a
2Cursor(a
2Of(b
2Project
2ToBeneficiary(d
4Index(a
4NameRef(d
4Wei?(d
2Verifica~(ba
2eas(a
3ntifier
:IsOriginal(a
:ToBuyout^(a
<Coordinate(a
<Index(d
<^(a
<RentPeriod(a
:s(a
7y(d
8!(b
6ties
:(b
7yApproved(b
8Eth!
8Of(d
9wner(b
2le
2s
3(a
4b
4d
2x
1eo!(a
3StorageVault
2th
1fDestory(b
2EmergencyStop
3ndGetting
2Freeze(b
2InAllowedLocks(a
2SuccessfulSendFundsTo
2oodCommunity
5Dev
1gnite
6d
3oreKYCLockup
6RequestIds(d
1iino$!
1lliquid=
?(b
1mAlive
2Out
2age
5!(b
5Exists(a
5Genera~CodeMD5
5Hash
9es(a
5UploadComplete(Qa
Da
5s(a
3x(mm
2in(mm
2mla$
3ortality
8s
9(ba
2plementa~
9sERC721
@YC
3ort!es(gg
7mountFor!(ab
Fes(hg
6=(b
=Batch(g
=Of(b
=s(ab
?bg
>Of(g
6Customer(bba
6ExchangeSale(aba
6FromExternal(bb
:Old(bbgh
6GenesisPairs(gg
6Island(dFLz
6MET(uugjohhj
6Players(bg
7resale=s(gh
Hb
=Contribu~(b
9viousWinners(hgh
6Reward(ba
6Sequence
6$s(b
<SourceBulk(bg
6ed(b
8$s
7r
8Banker
8sBanksDraftMaturityDate
>LetterOfCredit
3roveCard(aaa
1nActive
3lloca~LockPeriod
3ngelPeriod
3rray(b
2Battle(a
3lackList(b
2Circula~
3ommunity(bb
2Distribu~Mode
2Ether(a
2GameReward!
2ICO
3nnerScope(aa
2KissBTC(a
2List(b
6AsOf(ba
2MainSalePeriod
6tainance
7enance
2PreSalePeriod
5sale
9Mode
4ivatePreSalePeriod
3ublicPreSalePeriod
2Rate
2Sale
6Period
3dcForAdmin(baa
2Vaults
2WhiteList(b
2activate
:Self
7e_dividend(b
9payable
9withdraw(b
Aable
7ityReleasePeriod
:@out
2c
3AdminEpoch
3=(ba
3Children(a
3FightLose(a
8ToDeathWin(a
8Win(a
4reezeHybridiza~sCount(a
9Index(a
3Gen0Count
7Limit
7PresaleCount
6LabFace(a
:ight(a
3NT
4once
3PreSell(ba
3RandNonce
3SALESTATE
4upply(a
3TotalSupply(a
3entFund!
6iveDistributed
BionDate
EInterval
EMaxRounds
ERound
JDenominator
EStarted
9ForHolder
9$!
>sLimit
9s
:(a
:In(gh
:Out(gh
8isa~Alloca~
?Fund!
:ingEfforts!
DSupply
4p~
3ircula~
3luirUsuario(b
5sionEnExchange
3omeAlloca~
6Fees
7rom(b
5ing$sTransac~s
9ransac~(a
3rUserAvailBal(baf
8OnholdBal(baf
4ease(a
9b
:a
8Allowance(ba
Cba
9pproval(<ERC20Lib.$Storage storage>ba
Aba
Cj
Dc
Bba
@AndCall(baj
@Batch(gh
AyLegacy(bba
@PreSigned(baaaej
Jjbaaa
ICheck(bbaaaej
IHashing(bbaaa
@WithData(baj
9rrival@(aa
9ssetsCertified(a
;uranvePayments(ba
8BTCRaised(a
9alance(ba
:se
9lockTarget
8Cap
;(a
<m
9ompanyCountByOne
9redits(caeb
8DailyTransac~VolumeReceiving(a
NSending(a
9istrictCoke(aa
@Weed(aa
:videndPayments(ba
9ura~(a
8EmployeeExtraOp~s(bi
9thRaised(a
8Frozen(ba
9undingGoal(a
8Genera~Count(ae
8HardCap(a
8InvestedWei(a
>ment
8Jackpot(a
@c
8K
8LockReward(a
<ed=(ba
8MarketValue(aa
:xAvailable$s(aca
;Contrib@
9inPurchaseQty(a
9onsterExp(li
;thlyTransac~VolumeReceiving(a
PSending(a
8Nonce
8OffsaleCountByOne
9wnership$Count(b
8Payout(aaa
9eriod
;millage
9layersJadeProduc~(ba
9ot
9reSaleSupply(a
;gnantCounter
;saleEnd@(a
:ice(a
=AndDifficulty
=ForNeighbours(a
=_20_February
AJanuary
:ofit
;moCreatedCount
8Rate(ab
9eward
8SaleLimit(a
9oldSaleSupply(a
9tep
9upply(a
@b
9ystemCreatedCount
8@By
<IfBidBeforeEnd
9otalSupply(a
Dba
8USDRaised(a
9pdateMetadataCounter(a
8WeeklyTransac~VolumeReceiving(a
OSending(a
:iRaised(a
9ithdrawalChunk
9ordSize(c
5ment
9Battles(af
:id(a
9CountSales(aa
9Divisor
9Fee
9Inventory(aa
9Last$Id
:imitBranch
>Team
9OpenInterest(a
EFromMarket(a
:wnedArea(ba
9^(ab
;ogressOf!AndId(bi
9Rate
9Stat(aa
=istics(aa
:upply
9TotalEscrowed(ba
>Supply(a
9UniquenessIndex
9al(a
=a
;Inverse(aa
Eaa
;$^_
2d!
3Community
<Deposit
3FundDeposit
5ture
9Deposit
3Infla~
<Deposit
3PreSale
6saleDeposit
3Sale
7Deposit
4eed
7Deposit
3Vesting
:Deposit
3ependentSellerJoined(bab
4x
5(<!UintMap>a
6b
52PolicyId(a
6burningMan(a
6emissionProvider(a
6groupName(a
6member!(a
6sideService(a
6txKey(a
5Account
6ddress(l
5=
5GameOf(m
5LastThreads
5Of(<!SetLib.!Set storage>b
9uint128[] storage>nf
>6[] storage>kf
=256[] storage>af
=32[] storage>i
Kf
=64[] storage>lf
=8[] storage>ef
8cc
8d
7ActiveTaskId(a
7Card!(b
8ompletedTaskId(a
7Hodler(b
7Operator(b
7Provider(b
7TaskId(a
7UserInfo(a
5PaidAffiliate
9Bonus
5Replies
5SuperInvestor(a
5Threads
6o!(a
8pproved(a
7Owner(a
7Pipe(a
6racker
5array(a
5date
5edByOwner(ba
9Tag(da
7Docs(a
7Funders(a
7Grants(a
7$Holders(a
6s
7(b
5list(a
3iFundAndSocialVault
FDeposit
4ce
4rectInvestors(b
4vidualCap
=InWei
;laim
:MaxCap
@$s
;inCap
:RoundCap
:WeiCollected(b
:_cap
3ustry
2fect(d
3lat(a
6e
7(ba
7Count
6ion
9Change
:ompBPS
9_complete
3o
4(b
5c
6c
6e
5d
4256(ca
4AboveSpot
4Fields(d
4ICO
4Message
4Tier
5okenSilverRatio
4Url
4Withdraw1
=3
<2
<4
4_=Of(b
6idInfoByIndex(a
5CanBeClaimed(a
5ForSaleInfoByIndex(a
5Name
5OwnerOf&
:TINAmotleyLine(a
5PendingWithdrawals(b
5SeeTINAmotleyLine(a
6ymbol
5TotalSupply
4rmOffChainBuy(go
6arOng(b
7~
;(a
<b
4s(a
3raEth|
2heritInvestorPosi~(a
7ToNextGenera~(b
2iOwner
3_supply
3t
4(7bhaaaeaf<Crowdsale$>
9eaf<Crowdsale$>
5<BBLib.DB storage>da<IxIface>bq
;V7.DB storage>da<IxIface>bq
6CrowdsaleLib.CrowdsaleStorage storage>baaaaae<Crowdsale$>
[>bhaaae<Crowdsale$>
[>bhae<Crowdsale$>
6Deck>a
:Lib.Deck storage>a
7irectCrowdsaleLib.DirectCrowdsaleStorage storage>baaahaae<Crowdsale$>
[rage storage>bhaaae<Crowdsale$>
[rage storage>bhae<Crowdsale$>
6ERC20Lib.$Storage storage>a
7$2>cc
6Game>a
:Lib.Game storage>a
6InteractiveCrowdsaleLib.InteractiveCrowdsaleStorage storage>bhaaaaeccef
6$Lib.$Storage storage>bcceaf
5Ebcceaff
5Tgaaaa
5a
6a
7a
8a
9aaaaaa
9bbaa
7baaaa
;ba
9baaaba
6b
7b
6cecb
5b
6a
7aaaaafbf
7bcc
7daaaaffb
6b
7a0
8a
7b
8aa
8b
9b
:b
;bbbbbbbb
8c
7ccaa
7h
6cc
6d
6ghbc
6iiaa
6j
5caaa
9abb
6c
7cc
7lb
5gcce
6h
7ab
7cce
5o
41
5(<bytes32[20]>mb
5_block_height
42
5(ghcce
43(Bm
5_block_height
4Accounts(gh
?h
<WithHolds(ghh
5ddress
;AsMultiOwner(bc
5ffiliate
5irdropAndEarlyAlloc
5mount
5sset(accc
5tx(bbba
5uc~(aaaaabf
;s(aaaa
4BMC(baaaa
5allot(dabb<bytes24>
:Proxy(edd<bytes32[4]>
6nk(a
5et(ac
5lockEpoch
9Number
5onuses(c
5uilding(aaaaaa
4CanOffset@
6ps
8ule(a
6rd1
82
8s(a
6sino
5hain(ji
9Ledger(bb
7llenge
6estsStore
5ommunityAddr(b
7ptroller(b
6ngress(b
7tract
<(bb
?b
=ccaa
6unt$s
9ry(aa
5reator(a
6owdsale(aaabb
>bbaaaaaaab
=$(dda
4Dao(baaaaaaaaa
6te
6ylimit(a
5emoc(c
6posit
;(a
;Account
7th
4EachPUST
5poch=
5rc20Deal(dabrrb
5thDeal(dbrr
7Multiplicator(b
5xchangeUser(a
4Game(addd
9baddd
8At
4Holders(g<uint96[]>
4ICO
5ntervals
4KYCUser(a
4LeftICO$s
5oan
6cked=Of(b
6go
6ttery(aaa
?a
@m
?m
<kae
?d
4MET$(bbaa
5anager(aa
6rtial
5embers
5iaoMiao!(b
6ntable(bbaa
8ing
5ultiowned(ga
4NewGame
;(<uint8[16]>
5ormal
4One(cceaabbd
5p~Program
5raclize
5wner(b
9ship(bb
4PGOMonthlyInternalVault(gh
>PresaleVault(gh
5ayoutTable(aa
5ecul
6nding
5resale(baaaa
;$Vault(gh
6ice
9r
6oceeds(bb
4Rates(hh
5egister
4Sale(aa
;a
<aaa
9bbbb
81
82
83(aaaaaaa
5iriusFund
5mart$(bba
5tage
9s
:(ww<uint128[]><uint128[]><uint128[]>G
7ts(cba
5upply
4Tiers(hh
6me
8Of(a
8stamp
5oken(b
;baa
:ccebaf
9Bank
9Porter(bb
9Supply(a
Aa
5wo(aaaaaaaaa
4Validator(bbb
6ult
9(a
5esting
;(ba
4|
:(<Smart|Lib.| storage>bb
[bb
;gaa
:s(bbbb
5idth
6thdrawal(ba
4_bounty_program(b
5crowdsale(b
5dev_and_presale_alloca~(bb
5fund
5ico(b
5level
5pre_ico(b
5register_contract(db
5wallet(gaa
4alize(a
5mbassadors_
?bags
4ed
4ial
7ARXSupply
@InWei
:tokenSupply
8ddress(b
>Set
8lloca~
As(b
8mount
8uc~Dura~
>End@
8vailableCount
7BSTSupply
8alance
>(b
>ForCrowdsale
AMarketingCampaign
>s(b
9nkroll
?Growth?
9ttle(aa
8eating
8lock
<Count
<Number
<@stamp
8onus
<list$s
9unty?
8uy(g
:Card(eccc
:^
:inOf_(b
7Cap
:s
9rd^
8hargeFee(a
@Pool(b
8laesOffering
8oach(aaea
9mpanys$Alloca~
9ngress(b
9st
8rowdsale(aaaaaab
7Date
9yWithdraw(a
BCount(a
8istribu~
CDone
8rop
7EBETSupply
8PXSupply
8c$Alloca~(b
8nd^
9emyCombina~
8xchangeRateForETH
7FiatPerEthRate
8ounders?
8und=
;ing
;s
<ReleaseDenominator
CNumerator
7Holder
7ICOCap
8ssuance
;e
<Minted
@ing
CDate
7Lock!(b
7MarketSales
:tial@s
8int
8onthWithdraw(a
9ySupply
7OraclizeSettings
8wner
<To$(ba
<sShares
7PokemonInfo
8rice
<Paid(a
:ze
<Bov
<WeiValue
7QuorumPercent
7Rate
8eleaseDone
9serve
9ward
=Frac~
8ound
7Sale
;Complete
=ntract
;Dura~
;EndDate
8eed
;FarmingAdress
8ingleWithdraw(a
EMax(a
Fin(a
8pinners(a
8takes(a
:rt^
8upply
=(b
=!
=InFrac
=Per!
@Child!
>reSale
?ivateSale
>ublicPreICO
;ort?
;y
7TIPsupply
8iers
9me
;stamp
8oken
<?
<=
CFetched
<Owner
<^
A_
<Supply(ba
Ef
<Value
<s
==
=Holder
9talSupply
8raining
:nsfer(ba
?ToDevTeam
?s(gh
7Vest?
7|
8ei
:Rais(a
7Year
7_disbursement
8reward
8supply
8time
9okens
7iGnSupply
8sa~(b
9e
:(baaaaa
Acec
:Alloca~s
:&(ba
Eaa
;rowdsale(aabb
:Multisig(ba
:$
8za~(bbb
>Delay
9e
:(a
<aa
>ab
<ba
;b
<a
=aaa
@b
>bbbaa
=dhf
<b
=aa
?a
@a
Aa
Bbbbbb
Abba
?ba
@b
Abbbba
=b
>aaaa
>b
?b
@bb
Baaa
Ea
Bbaaah
Cbaaah
<d
<g
;ccabaaaaaaaaaa
?b
=cebbbb
;f
;j
:After;
;ssetsToThisApplica~
:=s
:Coins
<ntract
;rowdsale
C(aaba
:Distribu~(b
:EthReceived
:Level
:NewSale(aabb
:On;
;wnable(b
:Refund
;ound
:Sale|!
;ome!(bbb
;upply(aaa
:Tier(ab
<me
;oken
?(b
:UsdReceived
<ers
:VestingFor(b
:WeekData(a
:_bannable(b
;proposal
:d
;(b
;Block
;@
7lyDistributed(b
9Locked?(b
?=Of(b
6te
8(arbba
=fa
8CreateSale(aaaa
8EthUsdOracleUpdate(b
8Locking(a
8Migra~(bb
Db
8Ownership;(b
8SelfDestruct
8TeamVesting(b
9ransac~(baj
8User
8Withdrawal(ba
8d
7ion@
7ors(b
5lSupply
6izeVestingAnd$(baaaa
HAndWhiteList(baaaab
5talSupply
2ject
6(bb
8n
6AvatarService(b
6Ether
;FromIco
;ToDividend
2k(d
2nerScope
5lockStart@
2preSalePeriod
3utToDigit(a
2quireDivident?
2rSessions
2sChain$Ledger
3ecureMode
4rt(<DLL.Data storage>aaa
8GroveLib.Index storage>dm
8IterableMapping.itmap storage>ba
8Sets.addressSet storage>b
=byteSet storage>A
As32Set storage>d
=int8Set storage>0
@Set storage>m
=uint8Set storage>e
ASet storage>a
9ortedDoublyLL.Data storage>babb
7Zdm
7aa
7d
8dm
6AndApprove(agh
6Bonus(eaa
6CLNtoMarketMaker(b
Ha
6Hash(keec
6InPlace(<uint8[] storage>e
>pe
6Milestone(eaa
Ca
6NewUser(idbaaaif
6ProfitHere
9posal(bab
6Schedules(awh
7tage(eaa
?a
6ValueBonus(eaa
6_contribu~(ba
6arMensaje(acc
4tMoney
3tContAllocated$s
8|
4all
7Dona~&(b
7Winner(a
7ed
5nceId
8_info(d
8s(a
6tTrade(babaaabeddab
:nsfer
7ia~s(ba
4itu~
;Alloca~
;StageSetting
;@Lock
;|
;s(d
4ructOracleToDistribute(a
8_1
92
93
94
95
8ions
3uranceAccount
9Products(a
5er
2tStorage(d
3egra~
6ity
4llisys
4rCrypto
5crypto_cancelConversion(a
<getInterCrypto^
<recover
Cable
5est(efe
8Array
=(a
8CycleLength
8Distribu~
8EarnedAccount
8FeePercent
8Multiplier
8NextInPercent
8Of(b
8Paid(b
=db
9eriod_
8Rate
<PerCycle
9esolu~(eeef
5faceHash(c
5nal=
8CalculateBonus(aaa
8LockAccount(b
8Sell$FromAdmin(baf
Na
:nd(ba
8;(bba
5val
8At@(a
8Dura~
8Length
8Now
8Of(a
8Secs
8@
8Update
3ialSupply
6_supply
3repidShipMinted
9oldCount
8VoucherSoldCount
?sMinted
2v=s(b
3_contract
3ade!
4lidAirDrop(b
7EarlyPurchaseIndexes
K(a
7Hash(d
7Order(b
7Payments(gh
7ate(b
;c
:AdvertiserRefund(a
:Cache(d
;ertificate(d
;ombat(a
:EarlyPurchase(a
:Hash(d
>es(o
:Mail(a
:Name(c
:OrdersBefore(ba
:Purchase(a
:$(b
:dOrigPurchases(a
9ionBounty
3coinSentToEther
3entoryLocked
9Product(d
4st
6(a
7b
8a
9adedd
>a
8e
7f
7i
8ilk
7q
6?
7s(b
6=
=Got
=Max
=s(b
7ct(b
7ounty(ba
7yLegalTender(baa
6Commission
8ntractDeposited
>s(a
?Indices(b
6Direct
<(ba
6ETH(b
6Happened(ba
6InBTC(baaca
8Charger(a
8Queue(ba
8TheSystem
A(a
8fo(bD
8ternal(bn
6OtherCrypto(ba
6Start
8eps(a
7um
6Terms(ii
6|
7ithBitcoin(ba
:CustomerId(ba
Fc
Fn
:Id(n
:Signed!(bnedd
:outId
6ed
8(b
:a
8Amoun(b
=tOf
@(b
8BTC
8Crowdsale$Of(b
8ETH
;(b
9ther(b
8From(b
8InPreICO
8Periods(a
8Sum(b
;OnIco
=PreIco
8USD
8Wei
6ment
:(b
:!
:BTC
:CapIcoPhaseTwoPounds
:ETH
;ntryCost
?Infos
:Fund|
:Gateway
;uidesRewardsWithdrawn
:IdLastAttemptedToSettle
:Limit
:Min
:Of(b
:Posi~s
:Refunded(b
:Table(ab
:UpperBounds
:_address
:s
;(a
<b
=a
;Count
;InEth(b
;Of(b
7oretokens
6or
8Accounts(a
9ddFee(a
;ress
9mount(b
>$sToBuy(b
8=(b
?Of(b
?s(b
:nkroll
8Caps(b
9ount
8Date(b
9eposit
8Given
8IDs
;(b
9ndex
:fo(b
8LUT(b
9ist
<(a
=b
<ed(b
8Minimal=
8Payment(ba
9ercentages(b
9rofit
8Return(b
8Supply
8ToVesting(b
:ken(b
8|
>(b
>!
9hiteList
A(b
=list(b
9ithdraw(a
8_Refund
9bonus
8list(a
8s
9(a
:b
:k
9Accounts
A(b
:ddress
@(a
:lloca~
:rray(a
9=
;tchSize
9Count
9Fee
9Grants?
9Index(a
;fo(b
:ter
=(a
9Keys(a
9Length
:ist(a
>b
>d
:oses
<ses
9Num
9Processed
<fit
9StockInfo(b
<rage
:upply
9ToWithdrawIter(a
;kens
?Percent
;tal
>Supply
9_deliveryDate(b
:locked(b
:needed_until_jackpot
;umber(a
6tokens
3ite(bb
8j
6?Limit
6Collateralizer
6Finished
6Rate
7eferee(bb
8ward
6dByReferalBonus
7Reward
6ePID_inviteReward1_(a
6rReg
6s(b
3mod(aa
3oices(a
8StackCount
4ke
6For(b
6Lottery
6Once
:For(b
6Top
1ou$s
3_purchased
=(b
3coin
2wn
2x$
1pc
2fs
4!es(d
5ttributeLookup
C(b
4Hash
4_hash
2oPlatform
;Percentage
3_price
1rbg(ba
2onProcessed(b
4$saleRunning
1sALCDistributed
3RTDistributed
3TMHolder(b
4rusted&(b
3borted
4sent(d
5tainAllow
3cceptedDcorpMember(b
:$(b
8ingPayments
5ountBlocked(b
9Freeze(b
9Locked(b
9Verified(b
9Whitelisted(b
5redited(b
4e(e
4tivated
;(b
7e
8(a
9b
:a
9k
8Contributor(b
8Registrant(b
8Transcoder(ba
8User(b
7ityCore
3ddress(b
9Activated(b
:llowedInPresale(b
:uthorized(b
9Except(b
9Frozen(b
9InWhitelist(b
9Locked(b
9Manager(b
9Reserved(b
9Verified(b
9Whitelisted(b
4jacent(eeee
4min
7(b
9c
7!(b
7OwnersValid
7istrator(b
7listed(b
4visor(b
9s$sFirstReleased
@SecondReleased
@ThirdReleased
3etherClockAuc~
3ffiliate
;Program
;Valid(b
;d(b
4terEnd
7ICO
3irdrop(b
9Stopped
3live
4located
;12
;3
;6
;9
;ICO
;Lending
9ionLocked(b
6wClaimBeforeFinaliza~
8ontribu~
7ToIssue
8ransfer(b
7ed(b
:da
:eb
9!(b
9HIC!(b
9Override!(b
9ToBuy(d
>By!(b
GWithoutVerifica~(b
;Mint(b
;Purchase
:ransferDuringICO
7ing;s
4readyProcessed(a
9Used(a
<r(b
3mendedEarlyPurchase(a
4ountAllowed(ba
8Bonus
3nAddedGame(b
4Exchanger(b
4Owner(b
4tecedentHashedSecret(d
3ppRegistered(b
5rovable(ba
8eOnly
9d
:(a
;b
<b
;daj
:!(b
:For(ab
>ba
=All(bb
:Investor(b
:OrOwner(ba
:|(b
3rbitrator(b
4eaEnabled(c
4rAccountIsFrozen(b
DByDate(b
>NotFrozen(b
GForReturn(b
3ssetIdOwnerOrApproved(ba
5ociated(b
3tLeast(aa
4Most(aa
3uc~(c
9Manager
4ditorRegistered(b
4thed(b
7nticating
6orised(b
<Maker(b
9ty(b
9zed(b
>a
>bj
>d
>s
<!(b
<For$(bbb
;r(b
5oFowarding
3vailable
;(i
<t
;Account(b
;For;(l
;LockSlot(ba
2BCDC$
6Vault
4FBuyMarket
3S(b
3acker
4lanceSufficientFor&Crea~(b
4nned(b
8User(b
4tchActive(a
7Supported
7ed
5tleDecider
8boardLive(k
3eneficiary
4tClosed
5Locked
5Possible
=(f
5Storage
5ter^(ead
3idFinal
4nding(b
4ometricCompleted(d
;LockedOnlyOwner(b
4tSet(ae
3lack(b
7Listed(b
7list(b
;ed(b
4ockRedeemed(a
7ed(b
3onus
4untyAllocated
8Sent
4xItemId(a
3reakingCap(a
?a
@aa
:InvestorCap(ba
5edingMarket
3urn
6Active
6InClose
6|(b
6able
6ed
7r(b
4yFull
5Open
5Stopped
5able(c
5er(b
2CA(b
3DPer(b
3MCT
3S(b
4O(b
3abal(b
4llbackDone(b
4mp
6aignValid(d
4nBuy
5List
5Sell
5celed
:(a
8lable
=(<Call>b
CLib.Call storage>b
9ed
5vasFinished(i
4pReached
5abilityPublic(bs
5ped
8InEther
4rFinished(ab
5Special(a
5dTradeable(l
4shBack(b
5tleActive(i
4tegory(ae
4uldronExpired(e
3eilingStrategy
4rtifica~(bd
9ed(b
:r(b
3hampionAccount(b
5nge^Locked
5rged
4eckStage
5mistry
3laimSegmentVerified(aaa
7able
;(b
7ed(a
:b
:dc
5ssic
4ear@
4ient(b
8Blocked(b
8IdentRejectedOf(b
4ose
7Sale
7d
8AndValid
3ollateralWithinMargin(aai
6ectSignatureCorrect(bbadde
9$Start
4mmittee(b
6unityChallenge(a
5peti~Active
>llowed(b
6lete
:(a
:d
6osi~OnlyWithBaseLayers
4nfig
8ured
7rmed
;(a
<b
<d
<j
;By(jb
;SettingsRequest(a
5sensusObtained(a
6tructedOwned
6umable
5tainerForFee$(b
AWindow(b
>Market(b
>ReportingParticipant(b
>Share$(b
6ract(b
:Active
;uthorized(b
:Deprecated
:Expired
:Frozen
:OwnerLocked
:Paused
;ermanent(c
;roxy(b
7ibPeriodRunning
9u~Allowed
>Registered(d
;or(b
=InLists(b
=sRewarded
7olled
;r(b
7uibuteOpen
5vert(a
4rrectGuess(dda
4signerSet(a
3reated(d
4owdFundActive
7Sale
;Active
;Closed
;Finalized
>ished
;Running
;Setup
<tateICO
@PreSale
7sale
;Active
<llowed
;Closed
;Finalized
>ished
<ull
?(aa
@bd
;Open
<ver
;Paused
;Stopped
<uccessful
4ydrView!(b
;Registered(c
3urioAuc~
5rentAccountMinter(b
@Reader(b
:dmin(b
9OrPastAccountMinter(b
FReader(b
@dmin(b
?User(b
9RoundFinishing
9TierCapReached
9User(b
4stom$
4tieCore
2DAppReady
3Editor(db
3ailySettlementOnGoing
4ta(1
6No(j
6Source
<Callback
6Yes(j
6setRegistred(b
4yFirst
5Second
6ixtyChecked
5Third
9tyChecked
6okenActivated
3eDe&(b
4ad(a
4bug
4centBetCrowdsale
;$
;Vault
4ferred(b
4holdable
4legate(b
:Enable
4ployed
8ing
5ositSkiped(ba
5recated
<(b
4scrip~Finalized
5troyed(c
:r(b
4v(b
3iamondAuc~
4rectDebitEnable
4sableEther
9d
6vowed
5countValue
5tConfig
6ributed
;ionDue
A(b
>InProgress
>Ready
>;red
3onatedEth;red
4peRaiderDistrictsCore
3raw
6n(aba
4ivezyPrivate$Acceptable
4op(ab
3spRegistered(b
2EIP20(b
7$
3RC20
7(b
5721
677(b
5821
3arlyBird(b
;sStage
8onus
7Investors
@$Raised(a
7bird
4ting(b
8AndDrinking(b
3coAllocated12
>3
>6
>9
3di~Available(e
3ggFactory
3ligibleForUpgrade(b
3moji
4pty(1
8<DLL.Data storage>
9SortedDoublyLL.Data storage>
3nableBuySell
8d
9(d
4d
5GameStatus(e
5Offer
5ed
7(k
3pochDataSet
>(a
3quiped(ba
9Any2(baa
<3(baaa
3thPayable
5erSpaceBattle
<Upgrade
7nautsExplore
<Storage
3vent(b
4olvementAllowed(aa
3xcep~(b
5hangeAlive
:User
4ec
6uted
8ionAllowed
4ist(a
7ByBytes(d
7Founder(b
7InWhiteList(b
9vestor(b
7s(d
8Escrow(qbba
4pired
9(a
:b
:j
5loring(a
4ternalBuyer(b
5raDistribu~
2FactoryApproved(b
4iled
4vorEscrow(ab
3eed(b
3ightClockAuc~
4nalised
8ze
:Agent
:d
;(d
;Validly
:rSane
5ish
8DateReached
8ed
:(<RaceLib.Race storage>
;e
:Successfully
4rstInit
7Lock@End
7PartReleased
7StageFinalized
<$sMinted
7Year
3lowerAuc~
3orAuc~(a
5given(c
5k
6ing
4unda~(b
<SupplyAssigned
7erUser
3ree;Allowed
6ze(b
:a
8Account(b
8Enabled
8@out
8d(b
8r(b
7ing(b
5zze(b
4iend(b
4ozen
8(b
9ea
8Account(b
8By!(b
3ueled
4lfilled(<ContentUtils.ContentMapping storage>dbb
5l(<SortedDoublyLL.Data storage>
4nc~RemoveAuthorized!(j
5dLocked
6Released
8quest$
6ed
8Max
9ini
7r(b
6ing
9FailState
9Now
9Open
9StageUpdateAllowed(e
<te
6raiser(b
2GameActivated
;e
7pproved(b
6End
6Finished
6Locked(b
8gic&
6Paused
6Running
4son(l
3eneMixer
6Science
6rator
6sMarket
4tFreeZombiew(b
5WhiteList
3lobalConstraintRegistered(bb
8Pause
3oalReached
4ldMigrated(b
3reaterThan(aa
4oup(b
7Exists(d
7InPolicy(dd
3uard(b
4essesOpen
2Halted
4ndleAvailable(d
8Valid(d
4rdCapGoalReached
9Reached
9$sReached
6capReached
5vestEnabled
4shSigned(a
3elper(b
3old(b
6$s
6er
8(b
8!(b
8Own!(db
5iday(a
9Today
3uman
7(b
7$(b
2ICAP(b
4O
5Active
5Closed
5Ended
5Finished
5Open
9ed
6ver
5Period
5Running
5Started
7opped
5Up
5finalized
3QTDistributed
3TOFinished
3co
5(a
5Active
6gent(b
5Closed
6omplete
5Ended
5Failed
6inalized
8ish
;ed
5Open
6ver
5Paused
5Running
5Stage
8rt
:ed
7opped
6ucceeded
:ss
<ful
5True
3dRegistered(q
4Valid(q
4entity(b
3mmortal
3nAssetList(b
4=Limit(ba
5lockFilter(b
4CurrentGenera~(5b
F6b
4FinalState
4Game
5enera~(5ba
?6ba
?a
?ba
5racePeriod
4List(b
5ockStage
4MainSale
8tainance
4NextGenera~(5b
C6b
4OpenMakeOrder(b
4PassFilter(b
5hase(a
5ool
8(5b
96b
9b
5reSale
;State
7sale
;Phase
6ogress
4Raffle(b
5oundOneState
9TwoState
4Sale
5tage1
92
4TestMode
5ier1(b
82(b
6me
4WhiteList(b
9list(b
4creasedEnough(b
4it
6ialAllocated
:uc~Ended
9Block@stampSet
9Investor(b
9Supplied
9ized
4stantia~(b
4terestStatusUpdated
7mediateVault
4valid
9EarlyPurchase(a
5estAllowed
?(b
8mentPermitted(baa
8or(b
:Allowed(b
;pproved(b
:InWhitelist(b
:Locked
5ulnerableByArea(a
3risOracle
3ssuer(b
3tIco
4Open
4emStopped
2KYCApproved(b
5Passed(b
5Required
=ToReceiveFunds
?Send$s
5Verified(b
3eyHolder(b
3ickoffEnabled
@(a
3nownCall(b
9r(b
8rowdsourcer(b
7Driver(b
7Only
7Universe(b
3ycFailed(n
5Signer(b
5Team(b
5Whitelist(b
2LSNFT
3UNVault
3apFinished(a
4stRaceFinsihed
3eapYear(k
4ft$Issued
;s(a
4ssThan(aa
3ighthouse(b
4mitEnabled
7Mint
7Reached
4nkClaimed(b
4quid
8ating
4st(1
6ed(l
6ing
4ve
5ingMonarch
3oanFunded
4ckUpSale(a
6ed
8(b
9d
8Account(b
8Config
8Open
4go(b
6Initied
4singBet(<Bet>a
4ttery
9Closed
9Open
6oStarted
3pStart
3unyr$
2MHTHolder(b
3ain
6Chain
6FirstDay
6Sale
:Bonus@
:Running
:@
;okenRaised(a
6taining
7enanceMode
4jorityConfirmed(j
:Shareholder(b
4kePermitted(aabbaa
4nagement(b
8r
9(b
9Allowed(bc
9Enabled(b
9s(b
5ualTradingAllowed
4rketManager
8place
4sterRecruitment
4xCapReached
5SupplyLocked
5$sReached
5imumGoalReached
9PreFundingGoalReached
3eInWhiteList
4mber
8(b
:b
8Of(bc
4ssageEnabled
3iBoodle$
4dGrade(a
4grated(cc
8ionAgent
;Finished
;PhaseOpen
4nCapReached
5$sReached
5imumGoalReached
9InEther
9Value
6ng(b
8Open
5tAgent(b
6&(b
6Done
6ableNFT
6ed
7r(b
8Allowed(b
6ing
9Finished
9Manager(b
3ntpMigrated(b
3od(b
5erator(b
5ifiedInRound(bl
5ule(b
4netha!(b
6ySent
5sterAuc~
9Championship
4vingEnable
3ultiOwner(b
7Sig|
7ply
3y|Locked_Receive
ASend
2Necromancer(a
4gligable(aa
4wDay
5Parent(b
7youtPeriod
6layer(b
6rice
5Tile(k
6oken
4xtBudgetPlanMade
3oEmptyTranches
4tCommittee(b
5Expired
5Paused
5Registered(b
5aio(b
6rized(d
4wApproved
3ull(1
2OBR
3MICrowdsale&
5$&
:Lock&
3bserver(b
3ffchainWhitelisted(bj
5erSorted(a
7ingStarted
5icial(b
3ldVersion
5erOwner(bb
3mega&
3n
4Auc~(a
<t
;ToBuy(a
4Battle(bl
;l
4Castle(il
5raftingAuc~(a
4Exchange(a
<ById(a
4List(b
4Sale
8(a
8Any2(aa
;3(aaa
4Trading(l
4Whitelist(b
4e$
3pen
6(d
6Distribu~Closed
BSetup
6For(b
9Public
9Sale
6ed
5rable(b
7~Allowed
;Blocked
;al
8or(b
:AuthorizedBy(bb
DFor(bb
:For(bb
4s(b
5OrAdmin(b
4~PairRegistered(babaa
3racle
7izeEnabled(b
:Queued
4dered(bd
4iginalRoundContributor
3utcomeSet
3ver
6=LimitHolder(b
6flow(aa
6time
3wedFreeReferralPack(b
4ner
7(b
9a
9b
9d
7!(b
7OfAllPlayerCards(hb
8rOps(b
<OrAdmin(b
2P2PKH(jaa
4SH(jaa
3REICO
3VPListener
5Provider
3aid
6Until(b
4rentOf(b
5ticipant(b
6ner(bb
4ssed(a
4use
7Save
7d
8Crowdsale
8ICO
4yable
9Enabled
@ForAll
5ed(a
8b
5mentCompleted(b
9Registered(d
3endingCabal(b
9Proposal(b
4riodAll$sSold(a
8Closed(a
8@Passed(a
5missionGranted(bc
7tted(b
=d
<d
5sonalBonuses
:Lock(b
3hase(aa
7Valid(a
3latform
:Manager(b
:OrSupportManager(b
6inumLevel(bc
5yer(b
8Idle(ba
9nRound(ab
8OnBoard(ab
4uginInterface
3olicyExist(d
3reICO
8Closed
8Finished
8PrivateClosed
?Opened
9ublicClosed
>Opened
6co
8(a
8Active
8Finish
8Stage
5PreSale
5Sale
9Closed
9Finalised
9Period
?(a
9Ready
:unning
9@
:okenRaised(a
>Set
5WhiteListed(d
5allocated
5ferred$sAccount(b
5gnant(a
5mium(a
5sale
9Buyer(b
9Closed
9End
9Finalized
:ull
=(a
9Holder(b
9Market
9On
9Period
:urchase(b
9Setup
:tarted
9sNotEndedInAdvance
6ent(d
5viousStageFinalized
4icingSane
:trategy
5maryOperator(b
5orPack(b
5v
6ate
9Sale
=Running
6ilege!(b
4ocess(b
5duct(d
5gress
5jectCanceled(l
5mo(b
7Pause
7ted
5ofValid(od
5posal(b
:Active
:Executable(dabj
8ed(b
5vider(b
5xy(b
7Legit(b
3ublicIcoActive
8$Released
=SaleRunning
7sherRegistered(b
4ppySports
4rchasePossible
:d(a
9ingPaused
2Qualitified!(b
Fbaaaa
Gbyyy
4orum(F
2RSPScience
3andomPlayer
5ked(b
4tio
3eachCapped
7edGoal
5dy
7(a
7For(b
7ToBear(a
:reed(a
9Fight(a
4birthAllowed(aa
4ceiptClaimable(uugjohhj
5ipientAllowed(b
5ordUpdateAllowed(e
6very(bb
4deemAllowed
8ed(a
8ing
6mp~Permitted(baa
<Ready
6nominated
4ferralSupported
8ed(b
5und
8Allowed
8Locked
8Paused
9ossible
8able
8ed(b
8ing
;Enabled
8sEnabled
4g(b
5istered(b
>f
=d
<Account(b
=ddress(b
<Transcoder(b
<User(b
8rar(b
:~Open
5ular(a
8ted(b
4issuable(d
4jected(b
4leasable
8eAgent(b
9d
:(a
:Once
4ntAuc~
4presentor(b
4questExecutable(i
9Pending(b
6ireData
4seller(b
6rva~Full
8e(b
9Generated
9SupplyAssigned
9d(b
;cbcd
;db
5pect@Frame
5tricted
<(b
<!(b
4tirementAllowed(af
5urnRequested(b
4ward
3ightBranch
3ootAuthority(b
4undActive(a
7OneSalePeriod(a
7ThreeSalePeriod(a
8woSalePeriod(a
7ingError(aaa
3unning
9Ico(a
9PreIco(a
2SHA256HashRegistered(d
3TOProposed"

end Listing
end EvmFlow
