/-!
# Known signatures, part N
-/

namespace EvmFlow
namespace Listing

/-- Known signatures from `setMINfinney` to `stepLockend`. -/
def partN : String :=
"0setMINfinney(a
4agicStore(b
5in(aaaaa
7Account(ab
8dmin(b
7CampaignStatus(f
8ontract(b
?!(b
7PoolCutPercentage(a
7Sale(a
;Dates(a
Ba
;Parameters(aaa
Ia
;Start(a
@AndEnd@(aa
;TLYperETH(a
7|(b
7YouCollect&!es(bbbg
7netAccount(c
:Locked(f
7sale(b
7tainance(f
8enance(f
>Mode(f
5jorEvent(ccc
8ityThreshold(a
5kerDao&(b
5nagement(bf
=&!(fb
=Fee(a
@ChargePercentage(aa
9r(b
<b
<f
:!(b
;gent(b
;ndClaimer(bb
:Powerful(f
6dateInBlocks(a
6ualBonus(af
9Override(f
9^(a
9TradingAllowed(f
9Withdraw(f
7facturer(b
6y(g
7AccountsVerified(g
8lloca~s(ga
7BonusExtra(ga
7Whitelist(g
Bf
5p(aaa
6Master(b
5rginThresholds(aa
6ket(b
9!(b
Bb
9ComissionRatio(a
9Fees(a
9Manager!(b
9ingAdmin(b
<Profit!(b
<$sPercent(a
B|(b
9place(b
@f
>!(b
>&(b
>Fee(a
>Manager(b
7up(aa
5ster(b
9!1(b
@2(b
:uth(b
9&(b
9Key(b
9Name(ac
9Recruitment!(b
;seller&(b
;wardsPercent(a
9Server(i
9ToReferral(bb
9|(b
5t(a
6chOutcome(ac
8ingEnabled(f
6eAdvertisementRate(a
6ured(i
5x(a
8a
6AbsKindness(m
7ddresses(S
7gonCount(a
7llowedBetInEth(a
=ReservingPercentage(a
7mount(a
7nimals(k
7ppeals(a
7renaOneDay(a
8tworks(k
7ttackPrizePercent(a
7uditDura~(a
7vatarNumber(e
6BatchAssignment(a
7et(a
9?(a
Aa
9ThresholdPct(a
7lockDrift(a
7uy(a
9Limit(a
6CAP(a
7ap(a
9$s(a
7harId(i
:acters(a
Ak
8ildCount(a
7oinSides(e
8llectable(a
8nfig(aa
9tribu~(a
BCrowdsale!(b
BForRound(ea
BPhase1(a
G2(a
?or(a
8ordinate(a
Ak
8unt(a
7yclePlayersConsidered(a
6Delay(aa
8partureLim(a
9osit(a
8xSize(a
7istribu~s(a
8videndDepth(a
7rops(a
7ura~(a
?i
6EarningsClaimsRounds(a
7th(a
9Per!(a
6Fee(a
6GamePerBlock(a
8s(a
;a
9^(a
9Refund(a
6InvestedLimit(a
7ssuers(a
6Leaders(a
8vel(e
7imit(a
<caaa
8nked|Count(e
7ockPeriod(a
6MarketOffers(S
7erge(e
8ssagesGlobal(S
>Top(S
6Number(e
6OpenAttacks(a
6Participants(a
8ymentInEther(a
=s(a
9out(a
7erExchange(a
9Tx(a
7layers(e
7ower(a
7reCrowdAlloca~PerInvestor(a
8izeOneDay(a
8ofit
<(a
9toId(k
6Racers(e
8ise?(a
8nkingSpots(e
8te(a
<a
7eferrals(a
<er$s(a
8solvedAgonId
6Sale(a
7ecurityGuardDelay(a
8nd(a
8t(a
7ize(<SortedDoublyLL.Data storage>a
7tage1Alloca~PerInvestor(a
;2Alloca~PerInvestor(a
;3Alloca~PerInvestor(a
9ke(a
7upply(a
6Ticket(a
<s(a
7oSell(a
8kenBuyin(a
;Cap(a
;Numbers
;Supply(a
;sPerAccount(a
8tal?(a
;Supply(a
7ranferLimit(aaa
:sfers(a
6Updates(a
7serPayment(a
6Value(a
7eri?(i
6WagerWei(a
7ei(a
9Allowed(a
9ForVerifica~Levels(aaa
7in(a
:e
8thdrawal(a
6imalInvestment(a
D@Treshold(a
8umBet(a
;uy(a
:Claim^Wei(a
GRP(a
;oinsPer!(a
;redit(a
:EtherToAccept(a
:Gas^(a
:PurchaseFrac~(a
:Rate(a
:Sellable$s(a
7umInputEther(a
6win(k
4cr?ForGas(a
4edalsClaimed(k
6ium(e
9^(a
;obability(e
5lting&(b
5mber&(b
9Id(ba
:nfo(bd
9Level(b<MemberLevel>
@e
9Ship(ba
9Tier(ba
9s(b
;g
:hip(b
=^(a
Cea
=Status
=Type(ba
5ntors$sPercent(a
@|(b
5rchantDealsHistory(b
;|(b
7ulet^(a
5ssage(ac
;c
;kc
;mc
:MaxCharacters(a
:Sender(b
;pan(k
;tatus(f
5ta(add
8ddd
7BaseUrl(c
7data(ac
=d
<c
=aj
<dd
;!(b
;Base(c
;Channels(cc
<ontract!(b
;Hash(c
;Provider(b
;Size(a
;Url(cc
<ser(c
4iBoodleVault(b
5grate(b
:!(b
;gent(b
:&(b
:Stage
:To!(b
<ken&(b
:d=(ba
9ing(f
:on!(b
=gent(b
<&!(b
<Gate(b
<Host(b
<Info(c
<Manager(b
>ster(b
<Stabitcoin!(c
<Target(b
5leagePoint^(a
7stone(a
5n(<uint96>
7a
8a
6AcceptEther(a
8tivated$(a
7llowedBetInEth(a
B$s(a
=ReservingPercentage(a
7mount(a
=ba
7ndMaxEthersForPublicSale(aa
7pprovalCount(a
6=
=(a
>i
=For&Crea~(a
7et(a
9?(a
9ForOraclize(a
9PerRoll(a
<Spin(a
<Tx(a
7id
9(a
9DifferenceInSzabo(a
7lockPurchase(a
7ounty(a
7uy(a
9?(a
9Eth(a
9Limit(a
9Private
:ublic
9able?(a
6Cap(a
7hildCount(a
7ontrib(a
=?(a
=u~(a
B?(a
BForRound(ea
9versionRate(a
7utValue(a
6Dai(a
7epartureLim(a
9osit(a
7ona~(a
7ura~(a
?i
6ETH(a
9in(a
7nterFee(a
7steem?(a
7th(a
9er(a
6Gas4Accts(a
9^(a
6InvestedLimit(a
<ment(a
@InWei(a
@Limit(a
6Margin(a
8x(aa
;c
9Days(ee
9InvestValue(aa
9^InWei(aa
6OrderEth?(a
6Participants(a
8ymentForAnswer(a
7erTx(a
9sonalCap(a
7rice(a
7urchase(a
>Amt(a
>Limit(a
>Value(a
6ResalePercentage(a
8venue(a
6Sale(a
:^(a
7caled(0
7ell(ba
:?(a
8t(a
7hards(e
7ign(t
7lippageFactor(a
7take(a
:ing?(a
9nding=(a
9rting^(a
7wap?(a
6Target(a
8skValue(a
7ime(t
7oken(a
;ForSP(a
;sRequiredForMessage(a
<ToSale(a
7xFee(a
6UCCoinSellingValue(a
6Value(a
7eri?(i
7ote(a
:WeightK(a
6Wager(a
7ei(a
9Allowed(a
:mount(a
9ForDInit(a
9ToPurchase(a
6er(b
8^(a
7s^
6iPoolEdit_1(c
@2(c
@3(c
@4(c
@5(c
@6(c
@7(c
@8(c
@9(c
7malBet(a
:Contribu~(a
:Rewarded=(a
:$s(a
8um(a
<f
:AllowedWei(a
:Bet(a
=Value(a
;id?(a
<tcoinToInvest(a
;uy(a
=?(a
=Value(a
:Contribu~(a
:Ether?(a
?ToAccept(a
?eumToInvest(a
:Fee(a
;unding?(a
AGoal(a
ALimit(a
:GasLimit(a
;oal(a
:HydroStakes(aa
:IcoRate(a
;nvestment(a
:Payout(a
;riceCount(a
?Fusion(a
;urchaseEtherLimit(a
:$Sell(a
Dk
:Wei?(a
;ishTribute(a
<thdrawal(a
:price(a
7ngLeader(b
9Rate(ba
9$(b
7umInputEther(a
6orEditsAddr(b
6s(aa
6t!(b
8gent(b
>f
7Contact!(b
7Done
7Helper(b
7Master(b
8ode(a
7PerBlock(a
8rice(aaa
7Tap(a
7able(f
;$(b
7er
9(Eb
:b
;f
9&(b
9FeePercent(a
9|(b
7ingCompleted
<ntract!(b
;urator(b
:Dec(a
:FeeEnabled(f
:Oracle(b
5ssedVerifica~Slash?(a
7ions(ak
5xFormula!(b
6Gen!(b
4ntpMigrated(bfc
5yTiers(b
4od(b
6el(ba
9gh
6ule(bf
5narchyRewards(aa
6etarySupervisor(b
8ha!(bf
:Gateway(b
7yManager(b
8Range(a
8|(b
8line(mm
6sterAuc~!(b
:Class(iaaf
;reator!(b
:Gene(la
:IndexToApproved(ab
AOwner(ab
:Obj(lciii
6thClose(af
8Open(aaeaa
8Withdraw(a
8ly^(a
5stSent(a
5t!(b
6d(c
5veProductToWhom(bab
6ing
4rk&(b
4sg(ba
6^(a
4td?(a
6Pre?(a
4ulBonus(a
6Factor(a
6tiETH(gh
8LedgerValue(cbba
8SigVault(b
;|(b
8|(b
8hash(dj
8ple(a
;ParticipantWhitelist(gGh
<reSalesSpecialUsers(ga
;Rates(oh
:ier(a
8sig(b
;!(b
;Main(b
;Pre(b
;Vault(b
;|(b
;n|(b
4vpExists(f
4x(db
4y&t(b
6ut(aa
5ICO&(b
6dentity(dcc
5^(aa
5$List(g
5thex$!(b
7icalGravatar
3N(a
4AVAdmin(b
4DC&!(b
4EW(baaaa
4FT!(b
?a
6&!(b
6Detached(a
4SFW(ef
4T$(b
4VTface(b
4ame(ac
9d
9q
8c
9c
:a
8d
9c
7AndSymbol(cc
:Ticker(cc
7Link(cc
7Piture(ac
7Refer(cb
7Symbol(cc
7Value(a
7hash(cd
5rcosCore!(b
4eedToGetFree(a
5gativeGrowth(m
5ighbourRewardPercentage(a
6ronixProfit!(b
5tworkState(a
5uroChain!(c
5verdie&!(b
;Signer!(b
5w!(b
8min(b
7gent(b
7pproves
7ttributes(cc
6BRXPay(b
7eneficiary(b
7onusLevel(aa
;Scheme(a
6CFO(b
7ajutel(b
7dFee(n
7hecker(b
7laimer(b
7ontract!(b
;oller(b
7reator(ba
6DepositCommission(a
7ividend&(b
6End(a
9Date(a
9@(a
9time(baa
6Fundaria(b
6GameLogic(b
7reeting(c
6ICO@(aaaaaaaa
7PCRates(afafafaf
7co(aaaaa
7nvestCommission(a
<orsList(b
6Manager(b
7ediator(b
7iner(b
9t
:Request(ba
7onster(aibcc
7ultisig(b
6Owner(b
=a
;sCountToApprove(a
6Period(a
7ixel^(a
7rice(a
;Func!(b
;InFinney(a
6Rate(a
:Level(aa
:sBase(a
;Custom(aaaaaa
7eleasePeriod(baa
6SalesManager(b
7tart(a
;Date(a
;@(a
6Terrain(aad
7oken(b
;Importer(b
;Owner(b
;^(a
6UserBonusCardTradable(f
6Validator(b
9ue
6|(b
7hiteList(b
7ithdrawCommission(a
6s(c
5xt(X
7BidExpireBlockLength(a
7CommonTTM$Id2(l
G3(l
G7(l
G8(l
?W$Id2(l
7DiscountTTM$Id1(l
I6(l
AW$Id1(l
7Game(aaaa
;Settings(aaaaaaaa
Laaaaa
7ID(am
8magePart(Qakkkh
Aakkkh
7LotteryTTM$Id10(l
H4(l
H5(l
H9(l
@W$Id3(l
H4(l
7Milestone(aa
7Owner(b
7Period(aa
8oolPercentage(a
8rice(aa
<Of(aa
7Registrar(b
8nd@(iii
8oundDona~(a
=ura~(a
<Fee(a
<MaxDonors(a
8ules(aaaa
7Sale(b
;Agent(b
8eedHash(a
8napshot@(a
7UpgradeAgent(b
>Master(b
7Version!(b
4ick(c
9c
7name(ad
<c
<d
5nja&(b
8KindCount(e
4odalblockURL(c
6e(b
7Alloca~(b
7Phases(b
8rice(a
7sVars(b
5min(b
5nce(a
9ca
5rmalBuyLimit(a
9RoomMax(a
>in(a
6thPole!(b
5tInWhitelistAllow(a
6LessThan(a
6MoreThan(a
6Retractable(r
6;able(r
6Updatable(r
6aio(b
6e(adc
;c
:rc
<c
9rc
8c
8dd
7s(c
6ice(c
7fier(b
5viceDungeonId(a
5w(a
4play(b
4um(a
6ActiveTranscoders(a
6Cities(a
>a
6Of@sSteal(e
6RewardsAvailableFor!(ab
Pes(hg
=UsedFor!(ab
6Transcoders(a
6Units(aa
6berClaim$(a
9OfPlayers(a
:ne(a
9Three(a
:wo(a
6eratorDenominator(aa
3O1(b
42(b
43(b
4AR(b
4CG(b
6Fee(b
4NTExchangeRate(a
4PM(b
4TC(b
4bserver(b
4dd(aaa
6s(a
4ffChainManager!(b
6chainPayment(bf
6er(baa
8&(b
8@(a
6icialGameUrl(c
;Url(c
;Website(c
6set(a
4ld&(b
>Data(b
6E4(bb
6Seel$(b
6$(b
;!(b
4mega&(b
4nSale(afa
9?(a
5ceMint?(a
5e&(a
6$InWei(a
5line@
4p(b
5Gas(aa
;a
<aa
5en(f
7CloseHour(ef
7ForSale(f
7Group(a
7StatusEgg(af
7@(a
7ingClosing@(aa
:@
>(a
6rater(b
9ingCost(<uint32[5]>
<Officer(b
<Status(f
:on(b
<!(b
=ttributes(cac
FByRegulator(ccac
<al(gf
>Reserve!(b
<s(b
=CallGas(a
Faaaaaa
Laaaa
9or(b
=bf
;!(b
;Commission(a
;FeeAcct(b
5s!(b
5~(ca
9s(a
4rUpdateRecord(ccccbedd
A2(ccccbedd
5aGasLimit(a
6cle(b
9!(b
9CallbackGasLimit(a
D^(a
9Fee(a
>a
9Gas(a
9Name(bc
9QueryType(c
9Reference(bb
;gistry(b
9URL(c
8ize(b
;AddrResolverI(b
<llowance(a
;CallbackGas(a
FLimit(a
F^(a
;Fee(a
;Gas(a
?i
>ExtraArtwork(i
>Limit(a
>^(a
Ea
>price(a
;Query(c
@Gas^(a
@Max@(a
@Type(c
;RoundGasFee(a
;String(cccc
;@Tolerance(a
;WinnerGasFee(a
A@Offset(e
5derBookAcount(b
8End
5ganiza~(c
5iginalOwner(ab
;^Gen0
;Supply
4scar(b
4tc(b
5her&(b
9urrenciesChecker(b
8Fomo(b
:under(ba
8Manager(be
9igra~Sources(g
8NTech3D(b
8PCK(b
8Rich3D(b
4utcome
:(ee
;m
5verture_des_droits(a
=effective(a
4ver=LimitHolder(bf
7flowBounds(aa
7ride(b
7sight(b
<!(bf
4wnTheDay&(b
6edArea(ba
8Bonus
8Count(baaf
8$(baa
=sIndex(aa
7r
8(a
:a
:b
9b
:a
:b
:c
:f
9db
9kb
81(b
82(b
8Addr(b
<ess(b
9irDropRate(i
9tomsCount(ba
8Burner(b
8Cut(a
=a
<e
<k
8Fee(a
9lag(ae
9reeDay(a
8HoverText(by
8Link(by
8Name(ac
=bc
9ick(ac
<Name(bc
8One(b
8^(a
>n
8Share(ba
8TestValue(a
Be
9hree(b
9oken(b
9wo(b
8Validate!(b
?or!(b
8|(b
8s(g
9Commission(a
9hip(ab
<History(a<address[7]>
4zr(b
3PBTTForGas(a
4FManager(b
4ICOPSCertifier(b
5_edit_1(c
<0(c
<1(c
<2(c
<3(c
<4(c
<5(c
<6(c
<7(c
<8(c
<9(c
;2(c
<0(c
<1(c
<2(c
<3(c
<4(c
<5(c
<6(c
<7(c
<8(c
<9(c
;3(c
<0(c
<1(c
<2(c
<3(c
<4(c
;4(c
;5(c
;6(c
;7(c
;8(c
;9(c
4LAT!(b
7^(a
4OLYUSD(a
5OL_edit_1(c
>0(c
>1(c
>2(c
>3(c
>4(c
>5(c
>6(c
>7(c
>8(c
>9(c
=2(c
>0(c
>1(c
>2(c
>3(c
>4(c
>5(c
>6(c
>7(c
>8(c
>9(c
=3(c
>0(c
>1(c
>2(c
>3(c
>4(c
=4(c
=5(c
=6(c
=7(c
=8(c
=9(c
4VEBattleFee(a
5PEntranceFee(a
4XLProperty&(b
4ackLimit(k
7Sale!(b
8ize(a
7sPerClaim(k
5idPackage(aaaa
6ntingArtist(ac
;Name(ac
5oContact!(b
5rameter(cc
<s(<uint256[14]>
>aa
@aa
Baa
?db
>b
?cccbaa
>iiiiii
8s
9(aa
<a
<bb
:bbaa
>aaaaaaaaaa
<baa
:hh
;phh
9Ico(f
9PreSale(f
9StopSale(f
9TotalSupply(a
:ransfer(f
6ent(aa
:b
;b
9!(b
9ID(ak
9s(aaa
6king(i
6ter(ba
<a
7icipantWhitelist(bfa
<teDailyLootContribu~(a
>Fee(a
=ionCap(ga
@Fee(a
8es(bbbbb
7ner(b
:!(b
:&s(b
:Durance(aa
:ETHRewardsPercent(a
:FromPreICOAffiliate(goh
:Percent(bk
;ool(aa
:Quota(ba
:s(faa
;Release(a
5tch(aee
6entFee(a
<s(<uint256[9]>
6h(aajj
6ronReward(a
5use
8(e
9f
8Cutoff@(a
8Emergence
8Master(b
9ode(f
8Save
9tate(f
<us(f
8d(f
5yOutPercentage(e
6Size(a
6To(b
6able(f
:Enabled(f
6carnita(a
6dayFrequencyInDays(e
6erString(c
6ment!(b
:&(eb
B!(b
:Enabled(f
;scrow(b
:GatewayList(b
:Interval(a
:Settings(cc
6out(aa
9Limit(f
9Odds(a
9|(b
9s(aaa
<c
:|(b
4bulicOffering^(aa
4eggleBot(c
5nalty(a
:Disbursal(b
6ding(f
:KNCRateRange(aa
:Manager(b
:ReserveData(bab
<view
:TaxParameters(ba
:|Fee(ba
5ony!(b
5p(b
5rcentForHelpCoin(a
:Increase(aaa
:OfPool(h
:Rate(a
:$Alloca~(aaa
?sToSale(a
:WeiDividend(a
=Jackpot(a
=MC(a
:ageCW(a
>ut(a
=ToKill(e
=s(eeeeee
6former(b
6iod(a
;a
<a
:h
:k
9ITO_start@(a
9Length(a
9PreITO_start@(a
9Round(a
9s(aaaaaa
6manentLimitForType(ia
<PlatinumLevel(bc
7ission(bdf
=By!(eb
If
?Id(ed
Df
=Manager(b
=s(bf
6sonalBonus(baba
Be
;Cap(a
>Active(f
;isa~Cost(a
5t(ebcekkk
6Auras(leee
6LastBreeding@(l
:Training@(l
6Name(cl
4hase(a
:aaa
9eaaa
=aa
81Account$sMax(a
9Dura~InHours(a
5oenixOwners(<address[19]>
4icopsCertifier(b
6ture(c
5nCode(a
5p(b
5xel(iie
8AreaColor(aaaaw
8Color(ai
>kkK
8^(kka
:operty&(b
8Rate(a
8$(KaK
8s(iwp
4latAuc~(b
7form(b
;Fee(a
>Per10000(a
;Manager(b
;|(b
7inum!(b
6yValue(a
7er(bllllll
9AffID(aa
9DayEthInLimit(a
9Form(ae
9Id(a
9OverrideId(aa
9^(aa
9$!(b
9sPerRound(a
5otData(acccc
;Multiple(hcccc
5z(c
4oWtf&(b
5inter(e
5kemon(acbaa
5liticsForJackpotParticipantsList(f
6ls(b
5nzi!(b
8^InWei(a
=inWei(a
5ol(b
7!(b
8nd?(ba
7CapUSD(a
8ontract(b
8ut(a
7FeeRate(a
7Name(ca
7Status
7s(b
9kkk
5pName(ac
:Original(ac
5rnstars&!(b
6t(k
7Update(k
7folio(b
<Manager(b
5s$s(a
6i~^(a
9veGrowth(m
6sibleMobs(w
6t(c
7ICOSale(f
5tato(c
9Owner(b
4re(aaaaa
6Active@(a
7mounts(aa
6Crowdsale!(b
6DGZtoDgzRate(a
6FundingStart@(a
=tokens(a
6ICO(b
:f
9Bonus(e
9End(a
<Date(a
9Limit(a
9Phase
:rice(a
9Sold?(aa
:tartDate(a
>@(a
7TO(b
7co
9(b
9Dates(aa
9EndsAt(a
9HardCap(a
9Manager(b
9Parameters(aaaa
9Status(a
6Mine!(b
6PaidFee(a
6Sale
:(f
:&(b
:Date(a
;urance(a
:EndDate(a
:FinishDate(a
:Halt(f
:Off
;n
;pened(f
:Parameters(aaaa
Ia
;rice(a
:Rate(a
:StartAndEnd@(aa
=tus(f
:TLYperETH(a
;okenExchangeRate(a
?s(a
:sSpecialUser(ba
6URI(c
7ri1(c
92(c
6alloca~Whitelist(bf
6cisionDirect(e
6ferredSaleStartAndEnd@(aa
@TLYperETH(a
7ix(e
9^(aa
6ico!(ba
6miumFactors(daa
:Multiplier(e
6paid(baaca
8ra~PeriodTrainingFeeMultiplier(a
6sale(b
;f
:!(b
;lloca~(ba
:Closing@(a
;ont(b
:Dates(aa
:EndDate(i
=@(a
;thereumDeposit(b
:Fail
;inalizeAgent(b
:Market!(b
;ode(f
:OpeningClosing@(aa
:Params(aaaa
;erEth(a
;hase(<Phase>
@e
?UInt(a
:Rate(a
:Start(a
?Date(i
?@(a
?sAt(a
=te(e
:@(aa
;wo
:Whitelist(bf
7entMoney(a
6v&(b
7Oracle(b
8wner(b
7iousDungeoonId(i
;ID(am
;^(aa
;Surplus(gh
5ice
8(a
:a
;a
;b
:e
:f
;a
:hh
9ba
;a
9ca
:le
9en
9h
9k
:a
81(a
82(a
83(a
8AndRate(aa
9ttr(eaaaaaaaaa
8BeforeGoalReached(a
9yMetadataUri(ca
8Changer(a
<nelMaxSize(a
9laim(a
9oeff(a
:olingPeriod
9reatingChannel(a
9utoff(a
8Data(akae
8Factor(a
9ee
;d(aaaaedd
9orBasePart(a
;ProtectedCrypton(aa
;Verifica~(a
8InCents(a
:Eth(aa
;xo$s(ai
:Wei(a
?a
:crease(a
@Scale(a
?ingRatio(k
8Locked(f
8MoreThanOneETH(f
9ultiplier(a
8OfApis(a
;ss(aa
:Ether(ac
:$(a
9ne$(aa
9racle(b
8PerMessage(a
;Stake(a
9oints(3
9rogression(k
8Rate(a
<Phase1(a
A2(a
8Setter(b
9talePeriod(a
:ep1(a
<2(a
<3(a
<4(a
<5(a
<6(a
<7(a
<8(a
8ToPreSale
:RegSale
:ken(a
8USD(a
9nits(a
8Wei(a
9ithBonus(a
8r(b
8s
9(N
:a
;a
<a
=a
>aaaaaaa
Eaa
=eaaa
:fa
:ii
7ing
:Plan(b
:Startegy(b
<rategy(<PricingStrategy>
Caaaaaa
Cb
6maryAccount(b
:GameManager(b
:Manager(b
:Operator(b
6orityPass&(b
6v(b
7ateList(b
:Sale
>(b
>!(b
>EndDate(a
>Halt(f
>^(a
>$sSold(a
7eleged|(b
6zeFundFactor(a
8Pool(b
8s(<uint256[28]>
:w
5obabilities(w
6ceedsAccount(b
8ssingFee(a
:or!(b
6ducer(bf
9t(c
:Attributes(caac
DByRegulator(ccaac
:Comple~Date
:Type(ec
6file(ccci
8t!(b
9Container!(b
9Distribu~&(b
9Owner(b
9Pcnt(a
9;@Span(a
6gress(a
6jectAgent(b
:Manager(b
:Name(ec
6mo(a
9baa
9gp
8Bonus(ba
8End@(a
8Gen0(a
8Money(a
8Pause
8ToPartner(c
:kenController(b
8ted(f
6of(ad
9c
8Addr(c
8Impl(b
8Type(A
6perty(ccac
;BecomePublic(ka
GEarnUntil(kaa
;Colors(kM
;DApp&(bf
;EarnUntil(ka
;Flag(ke
;LastUpdate(ka
Er(kb
FLastUpdate(kba
;Mode(kfi
;Owner(kb
@Sale^(kba
IPrivateModeFlag(kbafe
;PrivateMode(kf
FEarnUntilLastUpdateBecomePublic(kfaaa
;RowColor(kea
;Sale^(ka
<tatus(dbe
7heth(b
7osal(acaeaaa
;TTL(a
6tec~ForMyUnprotectedCrypton(aa
=^(a
7ocolVersion(bd
6vider(b
<eb
;1(b
;2(b
;Completed(f
;Lock(f
6xy(b
:d
8&(b
9urator(b
;rator(b
8Management!(b
B&(b
Curator(b
5vd(b
7|(b
4ubEnd(a
6Key(aa
6key(ddd
6licCapability(bsf
9OfferDate(aaa
>Limit(aa
>^(aa
>ingDate(aaa
AHolder(b
ALimit(aa
9PlacementNum(a
9Release(a
9SaleDate(a
=FinishDate(a
=Params(aaaf
9a~Fee(a
8sherCut(ba
@n
5ppySports(b
5rchasable(a
?f
:eAdmin(b
;Limits(aa
;Period(a
;Rate(a
>ios(gh
;Values(aabf
;ableMode(afa
:ing(bbaa
>f
=Paused(f
4vt$s(a
3QtyStepFunc~(bBBBB
4ualifiedPartner(baa
6ntity(aa
;AdminOnly(aa
;Factor(a
5eryFee(a
8IdFor!(db
6s~Fee(a
?ba
5ickBuyPath(g
8Converter(b
3RBInforma~Store!(b
4C&!(b
4LCPerETH(a
4NGCallbackGas(a
AConfig(aa
A^(a
4SPScience!(b
5T(b
4abbitData(aiiiaedd
9Sire^(ia
5fEnd(a
6fle!(b
9Limit(a
5indrop!(b
6seRatio(a
8d?(a
5men&(b
5ndomApiKey(c
9Generator(b
9Player!(b
9izer(b
6geGameAttr(aaa
6k(ba
5re!(b
7^(aa
6ityMultiplier(e
5te(a
9a
:a
8ba
8da
8gghhf
8i
8k
8m
71(a
80(a
8666
7333
840
97
862
75(a
855
7!
9min(b
8ndStart(aaa
7&(b
7EarlyStage1(a
A2(a
A3(a
A4(a
8thTo$(aa
7Fees(aa
8inalStage1(a
A2(a
8orOrder(da
:Round(ea
7ICO(a
8co(a
:MainSale(a
:PreICO(a
7PerOneEther(a
8reICO(a
9ovider(b
7RoundSeed(a
7_BTCUSD(a
8ETHUSD(a
7s(aa
;a
9ii
8&(b
6ing(da
7o(a
4dCollector!(b
5Fee(aa
4eachCapped
8ed(f
6dingDelay(a
6lRef(ba
7isa~(a
>_effective(a
8tyCheck(b
7mSale(aa
7se@(a
6sonableDiff(gh
5callPercent(a
6eivable(bf
9ed$Rate(ba
:r(b
;1(b
;2(b
;3(b
;!(<PresaleLib.Data storage>b
Cb
;&!(b
;s(bbb
=ga
6ipientString(c
<s(g
6laimPeriod(a
6ommendStatus(f
<er(bb
>Multi(gg
7ncilia~Date(a
7rd(dcc
9!(b
9&(b
7veryInfo(da
6ruitHeroFee(a
5deem|(b
7mp~!(b
=&(b
=|(b
5fProgram(b
6Share(a
6er50x50(b
8BenefitRate(a
8alsMinInvestLimit(a
8ee(b
9nce(bd
9rPercent(a
8ral(bb
>a
;!(bb
;BonusPercent(a
@es(aa
;Fee(e
<und(a
;Id(ab
;Percent(a
Ck
<romille(e
;Signup$s(a
;$&(b
9er(b
=b
;Fee(a
;Percent(a
;Reward(a
6feral(b
;Fee(a
6illFor(caa
7neCost(a
6lectSwitch(f
6und(b
9Enabled(f
9Manager&(b
9Percent(a
9Rate(a
9State
=us(f
9@lock(a
9able
=(ba
>f
9er(b
9ing
9sActive(f
5g(b
6ionBlockUpdatedAt(aa
9Coordinates(aaaaa
:urrentImageId(aa
@Pixel^(aa
9ForSale(aaa
@To!(aaab
9ImageDataCloud(aaac
9Name(kc
:extImageId(aa
9OnSale(k
:wner(kba
9^(ka
:urchasedAt(aa
BPixel^(aa
9Tax(ke
9UpdatedAt(aa
:rl(a<uint8[128]>
7ster^(a
;ing&!(b
9rant(ab
;r(b
>f
<Auth(b
;~Fee(a
?Open(f
?Period(e
@rice(a
:y(b
;Addr(b
=min(b
;&(b
C!(b
;ExecID(d
;Logic(b
6sitrar!(b
6ulator(bf
<AccessLevel(be
5lay(b
8&!(b
8er(b
6ease(a
:Agent(b
;mount(ba
@ToCreator(a
:Car(af
;ompany(af
:Date(a
:Make(af
<nager(b
:@(a
?ba
:d(f
;!(bb
5mainAirdrop(a
9ders(aa
9ingLockDate(a
<Supply(a
<$Holder(b
As|(b
7rk1(c
92(c
5namingCosts(a
6ewable(af
9lsCreditAffiliatesFor(a
6tAuc~&!(b
7^(aa
5p^InAttoEth(a
6ayment
6uta~(b
=!(b
=IRNNodeShare(a
=Problems(bc
5questBurner&(b
:Cancella~Minimum@(i
:Failed(a
:Processed(a
Ea
:Until(e
:erLock(f
7ireAuthorisa~(f
:CustomerId(f
:Signed!(fb
:Whitelisted!(fb
CingBeforeDeposit(f
:dBlockConfirma~s(a
@Queue@(a
@sElapsedForVictory(a
;ExpIncreaseFactor(i
;GoldIncreaseFactor(a
;Majority(a
;Participa~(a
<rogressOfPreviousDungeon(i
;Stake(a
:ment(a
5scue(bf
6eller(b
;OnDistribu~&(bb
7rve(a
:!(b
:Data(bab
:ForCompany(b
=FoundersFirst(b
ESecond(b
:Params(bbbba
Eba
;ricing(a
:|(b
;eight(a
Ai
:d(bf
<ee
;Holder(bbb
;$s(a
Cgh
AList(baa
Ia
EMultiple(ghh
Qh
APercent(a
A|(b
;|(b
:fund(a
:sForExchange$sPercent(a
L|(b
9ingPercentage(a
<Step(a
7tVoteKindnessEvery(a
6olver(<Resolver>
<ab
<b
<cb
<db
;Fee(a
7urceERC20!(kb
;ForStar(<uint8[5]><uint16[5]><uint32[5]>
;sBanker(b
<OtherManager(be
<PrimaryManager(b
<SecondaryManager(b
6pectRequiredToRecruit(a
7onse(bc
6tricted(b
>f
=Acct(ba
>ddress(b
=Participa~Cap(ga
>ercent(a
=State(f
=|(b
6ult(aad
:ccc
7me
5tirementManager(b
6urnAgent(b
9able$(b
5venue&(b
7rseRate(g<int16>
6ision(b
7veFee(a
6oke(f
9!(b
5ward(a
:ba
:la
9!es(bbb
9BlockThreshold(a
9Chance(a
9Divisor(a
9Genera~Complete(f
9Level(aaahh
9ManagerLimit(a
<ger(b
:inter(ba
9Percent(aa
@ageK(a
:ool|(b
9Status(bf
9|(b
;sSent(b
9s(aa
=a
:&Hash(bd
4itualFee(a
4ng(b
4obot(b
8Addr(b
8Coin&(b
5cketValues(hahhh
5le(eb
7Capability(ebsf
7s&(b
6l!(b
7over(a
5ot(d
7!(b
7User(bf
5ughSupply(a
6letteRules(b
6nd(a
:a
9e
:aaaaa
8Available$(aa
8End(aa
8FinalScore(kd
8Length(a
?i
9ock?(a
8MaxPerUser(aa
8Params(eaaaaa
8Rate(aaa
=ia
8Start(aa
8@(aa
5wColors(keaa
6Quiter(f
6col(a<uint[2]>
;y
5yaltyInforma~&(b
4sp$!(b
4tm&(b
4ubusOrange!(b
5le(aaaa
8bc
8kaaaa
5nSwitch(f
6@AfterSoftCapReached(a
6ning
:(f
5sh@ChallengeRewardsPercent(a
;FloorCount(a
3SECOND_STEP_MULTIPLIER(k
4KL&!(b
4PARC!(b
4TO(baae
4U$&(b
4aasApiProfit!(b
5ddleShopSaleFee(a
5fe&(bf
7Gas(a
5il(aaaaaa
5lary(aa
<aa
6e
7(aa
:ab
9b
9fa
8b
9f
8f
7!(b
9vertisementRate(a
8gent(b
>f
<2(b
<&(bcaaaaaaab
8uc~(b
>!(b
>&!(b
>ERC20!(b
7Bonus(a
7Cap(a
8ontractDeposit!Verified(b
?Finalised(b
<oller(b
7Discount(aa
8ura~(a
7Enabled(f
9d
:(i
:@(a
7Fee(a
7Img(afba
8nfo(eaaaa
7Lot4Start@(a
7Manage&(b
=r!(b
8inter(ba
7Ongoing(f
7Pause(f
8eriod(aa
@a
>c
8hase(e
8rice(a
7Rate(a
7Share(afba
8tart@(a
:te(f
=kf
;us(f
7@(aa
;s(aa
8ype(eeiaa
;_Airdrop(eeiea
<Presale(eeiaa
7WeiLimitWithoutKYC(a
8indow(aa
7r(b
7sAgent(b
8&(b
8End@(a
8Finished
8Pipe(b
<Allowance(ba
8User(b
6vageable(bf
5mpleRegistry(b
5nLength(aa
6Max?(a
9Free(a
6TTTCost(a
6ctuary!(b
6ityBounds(a
9Rates(gh
6taClaus(b
4cale(aa
8&!(b
5ientificData(ac
5ore(b
:a
7ingThreshold(a
5rapAuc~Dura~(a
8MinEnd^(a
;Start^(a
8Percent(e
4ealDate(a
7ed
5cond!=(b
;min(b
9Bonus(a
>Percent(a
9RoundPricing(a
9StageEndsAt(a
>StartsAt(a
9|(b
?Percent(a
9YearAllowancePercentage(e
9ary(b
<GameManager(b
<Manager(b
<Operator(b
<Storage(b
9sAfter(a
:PerBlock(a
6ret(a
9BonusFactor(a
9Signer(b
6~ForSale(aa
ATo!(aab
7orOwnerCut(a
6ureFees(f
8ityCheck(c
;Guard(b
;Percent(a
;$sPercent(a
A|(b
;|(b
AAddr(b
5ed(a
9a
7&(b
7^(a
7SourceA(b
=B(b
5gment(ciicccc
:Owner(ciicc
5lfClaim(dd
7DestructBeneficiary(b
7Hybridiza~^(a
6lComission(a
@Units(a
:mission(a
ABps(a
9urse(a
7DailyLimit(aIa
8ividendPercent(a
Ha
FageFee(e
Naa
7ExchangeRate(a
7Fee(i
:Bps(a
7Info(eaa
7Open(f
7^
<(a
=ka
<s(a
7Rate(a
:io(a
7Status(f
7To&(f
7able(f
<if
;$(b
7ed(af
8r(b
9Guarantee(a
Cfa
7ing(f
:^(a
:$(baa
5ndAllow(f
7ErrorValue(ba
7Gift^(a
8odz(a
7ProfitsReward(a
7er(b
5rver!(b
7ice(b
;jb
:Account(bf
;gent(b
:Controller(b
:Fee(a
?a
>ba
:Name(dc
:Provider(b
:RegistryEntry(ab
:$!(b
:URI(c
:sta~!(b
5ssionBlockSize(a
:Dura~Minutes(a
5tting(ca
:Values(eekkkkkeeiie
:s(aa
>a
<ba
6upComplete
@d
4gdToEthRate(a
4hare(b
8CycleSessionSize(a
8Holder(b
>s(abaf
@faa
8$!(b
9radingEnabled(af
8active(f
8dStorage(b
8holder(bf
5ipping(c
5opModerator(b
6rt(b
6uldGateGuard(f
6wInterval(a
5p(b
6ExchangeRate(a
4ibling(b
5ft&!(b
5gnUpOnOff(f
7atureChecker(b
7er(b
;f
9!(b
7ingLogic(b
5lver&!(b
5ngleWithdraw(a
AMax(a
Bin(a
6istre(a
;_effectif(a
6k(b
8gh
5reStop(i
6ingAuc~!(b
9WithId(ai
5teAccount!(b
5ze(a
8ec
7AndRate(aa
4kin&(b
5r(b
4lackUsersCap(a
6mmer@(b
6veServer(i
8|(b
>Percent(a
5ippage(a
5ogan(aj
:lc
6wDump(a
7Sync(a
4mallCapWhitelistParticipant(ba
Os(ga
Rh
8Investor(baa
8^(a
6rtAffiliate&(b
8&^(a
8$(b
5sCertifica~Required(f
=er(b
4napshotCreator(b
4oftCap(a
:CHF(a
:Deadline(a
:InCents(a
:Reached
:USD(a
7HardCaps(aa
7cap(a
7ware$sPercent(a
A|(b
5ld(a
7PreSale$s(a
7$s(a
6ver(b
5meValue(a
=c
5urce(b
9$(b
4paceImpulse(b
8ship^(ka
6rk(b
8Dividends(b
6wnType(e
8er(bf
8ingManager(b
5ecialBonus(ba
:^(baa
:|(b
6nder!(b
5onsor(c
5read(a
9Percent(a
4quareWins(aaa
4tables(b
6ge(a
:aaaa
9e
82Start(a
8Bonus(aa
8Count(a
8Length(a
8Properties(eab
8ThirdBegin
8sManager(b
6ke!(b
8&(b
8Period(a
8Requirements(aa
Enn
8Start@(a
7ingRequirement(a
6lePeriod(a
8@(a
6ndard(d
;Pack^(a
6rAuc~(eb
7Distance(ek
7Initial^(a
7t
8(a
8At(a
9uc~Fee(a
8=(a
9lock(a
8CloseSale(a
8Date(a
8End@(aa
?TLP(a
8ICO(a
9coMainICO(a
;PreICO(a
A2ndRound(a
8LockPeriod(a
8PreICO(a
;Sale(a
:ice(a
8Refund(f
9ound(a
8Sale(a
9tage1(a
=2(a
=3(a
:opBlocks(aa
8@(a
>a
=l
<Ico(aa
<Stamp(a
<TLP1(a
?2(a
<stamp(a
8ed
9rClass(ai
:Pack(ak
>OnSale(f
8ingBlock(a
;^(a
;Seeds(a
;@(a
<okens?(a
8sAt(a
6te(a
:ead
9b
9c
9e
9f
8Migrated
8WithBonus(ea
8s(gpp
7sSumHours(aa
7us(be
:c
;c
:d
:e
:f
;f
9Burn(ff
;ySell(ff
9I(b
9^(a
9;From(f
9es(b
5ep(e
7Func~s
7Limits(aa
7Money(a
7OneLockEnd@(a
:Rate(a
:@(aa
7TwoLockEnd@(a
:Rate(a
:@(aa
5ock(b
6p
7&(f
7Date(a
8efrost
7Funding(f
7MatchBetting
7Receive(f
7Selling
9ndWebGift(f
7@(a
8ransfer(bf
7ped
:(f
6rage(b
:!(b
:Controller&!(b
:Fee(aba
:Interface(b
:Owner(b
:@(a
7e(b
5r(ac
7ca
8c
6eamer&(ba
9ity&!(b
6ike^(aa
7ng(cc
:dc
;dcf
4ubFreezing^(a
>@(l
6Registrar(cb
6TourFreezing^(a
B@(l
6continentDiscoveryVoting&(b
6divisionEnabled(f
6nodeOwner(<bytes22>b
@ddb
5ccessor(b
6essor(b
5ggestedAd^(aa
5perInvestor(b
8man(b
6ply(a
9Adjuster(b
9Limit(a
:ock(f
7orted&(bf
<$(bf
As(bf
4wap(ba
7Fee(a
7$(baaaaf
4ymbol(c
:d
5sAcc(b
6temAuc~Dura~(a
9&s(bb
9Ending^(a
9OraGasLimit(a
9Sale!(b
:tarting^Min(a
3TIC(b
5ME_TO_MAKE_TOMATOES(a
4KC(b
4MEX!(b
4OS(bf
4PT&!(b
4RCExchangeRate(a
5M1BonusActive(f
4TC!(b
6$!(b
5GCoin(b
5L(a
7dl
5M$!(b
5W$!(b
4ableSize(a
5ke(a
7OwnershipFeePercents(a
5lentCard!(b
5nk(b
5pGap(a
5rget(a
;a
:b
:cb
9BondingRate(a
9&(b
9DiscountValue1(a
G0(a
F2(a
F3(a
F4(a
F5(a
F6(a
F7(a
F8(a
F9(a
9FeePeriodDura~(a
9^(ea
9$(b
9|(b
5u(b
5x(a
6!(b
6InBps(a
6Percentage(a
6Rate(a
6|(b
6a~Period(a
6es(aa
4deIssuer(b
4eam(b
7Add(b
:r(b
;ess(b
@bb
Bbb
@f
8ndAdvisorAndAirdrop!es(bbb
7&(b
7Member(bf
7^(hha
9ofit!(b
7Status(fa
7$!(b
<Holder(b
<sHolder(b
=Percent(a
=|(b
7Vault(bbl
7|(b
=!(b
7s(gh
5chBonus1(ac
<2(ac
<3(ac
7nicalAdmin(b
5legram(c
7port&!(b
;^(a
6lerModerator(b
5mpHeroPower
7Registra~(f
5rm(ac
7sNumber(a
5stFee(a
5ther(baia
5xt(c
9c
8dcc
4geAddr(b
7sSaleAgent
6Issuer(b
4heKingsQuote(c
5ingValid(of
8s(gha
6rd!=(b
:min(b
8BonusPercent(a
8RoundPricing(a
5reshold(a
>aa
8old(aa
6owOnIncompatible&(f
4ick@(a
7etMax(a
9^(a
5er(b
71Participants(g
72Participants(g
7Data(aaa
7Rates(aaaa
7s(aa
8Info(ehhhhp
5le(acca
7Hp(kei
7Posi~(kee
5me(aa
8ba
72Rest(aa
7Bonus(a
<es(hh
7End(a
7Frame(a
7Limit(a
8ock(a
7OutAuthentica~(a
7PerPeriod(M
7RangeGen0(a
7Sale(aa
8tamp(aa
=ca
<Status(aac
9ep(a
7ToBorn(a
8ransferAllowance(a
7Window(a
?a
7dCrowdsale(aa
8;(aa
7lock(a
7out(a
7s(aa
:fafafafaf
8Enabled(ef
5p(a
5tulaire_Compte_1(a
E0(a
D2(a
D3(a
D4(a
D5(a
D6(a
D7(a
D8(a
D9(a
4kt^(a
4o&Addr(b
5Forking
5Known(b
5NotForking
5S(c
6ale|(b
6endLeft
5ken(<Frac~alERC20>
9ab
9b
:ab
9eb
84Gas(a
8AcceptanceRate(ba
9dd(b
;r(b
<ess(b
?es(<address[6]>
Bbb
9llocator(b
9ndRate(aa
9pproval(ab
Cf
9side!es(bbb
8Bankroll!(eb
:seURI(c
9urner(b
:yRate(a
8Cap(a
;InUnits(a
9ollectable(f
:ntactInforma~(c
<ract(<Legends$>
BMainstreet$>
Ab
@!(b
=olInfo(baaa
Cs
?ler(b
Db
:st(a
:untFromPreIco(a
=s(aa
9rea~&(b
9urator(b
8Data(ad
>o
9elega~(bb
:scrip~(bac
Dc
;kProxy(b
9iscountThreshold(a
;tribu~
DPool(b
8Excange(ba
;hange(b
@Rate(7a
E<CrowdsaleLib.CrowdsaleStorage storage>a
FDirectCrowdsaleLib.DirectCrowdsaleStorage storage>a
Ea
Faa
Eba
8ForSP(a
<ale(aabf
Bf
Ab
9rom(b
8Hash(aa
9older(b
>!(b
8IdByIndex(aa
:sIndex(aa
9nfo(cc
<ApproveSignatures(a
<Data(ghh
<MaxPerBlockImbalanceList(h
?TotalImbalanceList(h
<ParametersReady
=endingMaxTotalImbalance(a
CPerBlockImbalance(a
C$List(a
<$List(g
<rma~(cc
Fa
Fe
Ddd
9pfsHash(bj
8List(g
9ogic(b
8Manager(b
9eta(hhh
<data(ac
@BaseURI(c
9inter(b
8NAVMicroUSD(a
9ame(bac
>c
>d
=c
8Offering
@(ba
9peratorApprovals(bbff
9wner(ab
>b
8Partner(b
9erEth(a
>er(a
9oolReward(a
:rter(b
9rice(a
?a
@a
Aa
>ba
>e
>n
=ByOwner(aa
=InCent(a
?Wei(a
=Proposal(aaa
=s(hh
8Quota(a
8Rate(a
>c
=i
9eference(b
:turnRate(a
:ward(a
?b
@a
>Rate(a
8SPUsdCent^(a
9ale(bba
<!(b
=mount(ba
<&(b
D!(b
<End@(a
<Finished
<Halt(f
<Rounds(MMMMMM
<Start@(a
<$sCost(a
BMinimumNumberForBuy(a
9eller(b
9tart(a
;te(b
>e
<us(f
9upplyLimit(a
9warmHash(bj
9ymbol(bc
@d
?c
>Name(c
8ToEtherAllowed(f
:Owner(abf
9ransfer(f
@Identifier(cs
@Percentage(aa
@State(f
Dus(f
9ypes(kkk
8URI(ac
<bc
<c
=a
;Affixes(cc
;Base(c
;Prefix(c
:L(bc
9SDRate(a
9pgrader(b
9riPrefix(c
8|(b
@b
9ithoutFee(bf
8s
9(7
:<CrowdsaleLib.CrowdsaleStorage storage>
;DirectCrowdsaleLib.DirectCrowdsaleStorage storage>
:ba
9Bought(a
:yWaveIndex(aaa
9&(b
A!(b
>olInfo
9ForCrowdSale(a
<SaleCount(af
9Limit(a
:ocked(f
9PerETH(a
=th(a
?er(a
Ca
<KEther(a
<OneETH(a
<Wei(a
9Quantity(h<uint248[]>
9Sold(a
=Goal(a
=InPresale(a
9ToBeClaimed
9Wave(a<uint256[10]>
9ale|(b
5p(aba
:f
6WinnerPrizes
5tal(a
8AirDrop(a
8Bonuses(a
8Capacity(a
;italiza~(a
:rdCount(a
9ollected(a
8EtherPool(aef
8IndividualWei?(ba
8PersistLimit(a
9hases(a
8Supply
>(a
?b
8$(a
=Supply(a
=s(a
>ForPublicSale(a
8UnvestedAndUnreleased$s(ba
9sd?(a
8WeiToBeDistributed(a
9izzPandaOf(aa
6le(b
6um(b
8Alloca~(b
8Phases(b
5urnament(b
=!(b
=EntranceFeeCut(a
4rCut(a
5Fee(a
5adable(f
7e(f
8ABIHash(d
9ddress(b
8EventEnabled(f
8IsOpen(f
8Robot(b
8able(f
8r(b
;f
7ing
:(f
:Enabled(f
:Fee(a
:Live
:PairCutoffs(ra
:Status(f
6iningFeeMultiplier(a
<ormula&(b
;Science&(b
6ncheMinTx(a
7formed(ll
7sFeeCut(a
8ac~Fee(a
>sAllowed(f
8fer(aa
<f
;Ability(f
<ddress(b
Ccb
=min(bf
<gent(bf
@Status(bf
<llowance(f
@ed(f
<uthPermission(bf
?oriza~s(b
Ced(bba
;Blocked(f
;CreditBot(b
;Disabled(af
;Enable(f
Ad(f
@ingDate(a
;Fee(a
?ba
?ii
>Percentage(a
>Rate(a
>s(aaa
<romWhiteList(bf
>zen(f
;Limit(a
<ock(a
@f
?Free
;Manager&(b
<inimumFee(e
<ode(f
;OCE(f
<wnership(b
;Plan(baf
<rice(a
;Rate(g<int16>
<ight(gg
;Status(a
Bf
;@(a
;Whitelist(b
Ff
;able(f
?Date(l
?@(a
<ctive(f
;sAllowed(f
<Enabled
C(f
9ormAgent(b
8perRun(a
9orta~FeeMultiplier(a
6ps(akj
6vel^(a
5easureBox(bf
;r(b
>f
:y(aa
<b
;!(b
;=(a
5ipleRoomMax(a
>in(a
5ueUSD(b
6st(b
8ed(b
<f
:Addr(b
:Client(b
;ontract(bf
:MinterAddr(b
:Sender(b
9e(bf
4ub(b
6Gap(a
4witterBot(b
4xAsSpent(dda
5Fee(a
4ym$sPercent(a
<|(b
5pe(e
7Advantage(ee
@s
7Name(ic
7^(aa
3UCCoinPerEther(a
4Int(ca
8da
9da
7Value(ca
4RIBase(c
4SDBtc(a
6Eth(a
9er^(a
7xchangeRate(a
6PerETH(a
7rice(a
6Raised(a
4TExchangeRate(a
4int(a
8da
9ca
9daf
7CoinProduc~(baaf
7sOwnerCount(baf
4mka!(c
4nPauseEmergence
5available
5bondingPeriod(l
7undedLimit(bf
5circulatedSupplyCount(a
6laimedPlot^(a
7eSafeNr(a
5freezeStart@(a
;@stamp(a
5holdDate(a
5icornBreeding(b
:&(b
:$(b
6queSpinner^(a
9nessIndex(i
6t(a
9aa
8e
7AttackIncreases(baaf
=Multiplier(baaf
7CoinProduc~Increases(baaf
EMultiplier(baaf
8rea~Fee(a
7DefenseIncreases(baaf
7JadeStealingIncreases(baaf
CMultiplier(baaf
7sOneEthCanBuy(a
5lceRateAndFees(<>a
Daa
6imitedMode(fb
6ock!(bf
9Earlier(a
9Later(a
9@(a
=Stamp(a
9ed!(b
5officialApplica~SignUpFee(a
=UserSignUpFee(a
6wnedLifeRate(ae
:Name(ac
;ickname(ac
;umOfExo$sBonus(ai
:^InEth(aa
Bxo$s(ai
;urchaseableMode(af
5paidPercentage(de
7used|(bf
5sold$s|(b
5tsqm(a
4p(a
6bbbbbbb
5Allowance
5Crowdsale
5Limit(a
5Sale(eaaaa
5dateGasCost(a
9Interval(a
9Operator(ab
9State(f
9r(b
:!(b
5grade!(b
;gent(b
Ai
:&(b
?oller(b
:Fee(a
:Master(b
:State(e
:Target(b
:ableTarget(b
:d!(b
;&!(b
:r(b
:sOwned(ba
4rl(ac
7c
6s(cc
4sageReporting!(b
5d?(a
6Cap(a
7onversionRate(a
6Eth(a
9Rate(a
9Value(a
6Mnr(a
6PerEth(a
<Rate(a
<er(a
9HundredEth(a
9KEther(a
6ToEtherExchangeRate(a
5eAddr(b
6DELEGATECALL(f
6EIP712(f
6Service(f
6r(bbaa
9ca
:cfff
7Acknowledged&(bf
8irDropRate(i
7BattleValue(ba
8lacklistedStatus(f
7Cap(ba
9tegory(ba
8ontract(b
7Factory&(b
7ID(d
7Manager(b
>&(b
8essage(c
7Name(c
7Rank(b
8ole(bdbe
=ef
;s(gogp
7Signup$s(a
7Type(ba
7WhiteList&(bf
8ithdrawalAccount(<Smart|Lib.| storage>b
Ib
7name(bc
<c
<q
;For!(db
7sBounty(gh
8CanTrade(f
:p(a
4tils(b
82(b
3VAtomOwner(cc
4CX(bba
4IPFee(a
4LTMultiSig(b
4RC(bba
4alInt(a
6id(af
8BwCaller(b
:MarketCaller(b
8Dura~Data(a
8KYC
;(b
<f
8RateDura~InBlocks(a
8a~Data(kkeeeek
:or(b
<ForND(aaaa
6ue(baaa
:c
9c
:a
9d<bytes15>
:da
8Agent(b
8s(aaaa
5r(cc
6iables(aaaa
=eeeea
>kkk
8ntCount(aa
8~!(b
<Cycle(a
<Probably(a
7bles(cca
6s(bb
5ult(b
8!(b
8&!(b
:untPerProcess(e
8Deposit(a
8s(bbbbb
4ending?(aa
;ttachedState(aa
:Fee(aaa
:Start^(aa
<epValues(aaa
7or|(b
5rifica~CodeHash(c
?Period(a
?Rate(l
?SlashingPeriod(a
@tatus(df
9ed(a
<b
=f
:r(b
=f
8yUrl(c
6sion(c
5st$Alloca~!es(bb
7ing(b
<aa
>a
?a
@af
:!(b
:&(b
:Manager(b
<ster!(b
:Params(aaa
;ercent(a
:Rate(a
;eleased?(bba
<vokeDate(bba
:Schedule(bbaaaaf
:$(b
;ype(e
:WithDefaultSchedule(ba
4ig!(b
5p!(b
6Info(ba
6Rate(a
5rtualExchange(b
:Reserve=(a
4nt(b
4oteCost(a
9untPerProcess(a
8ut(a
7Inten~(affc
7Right(ba
7Weight(a
7r(aba
9b
8Count(a
8Stakes&(b
7sPerProposal(a
7tUntil(e
6ingController(b
9Period(a
:roxy(b
9Winner(b
5x(b
3WAR$!(b
4LMTBounce(a
7^(a
7finney(a
4ait@(e
;Blocks(a
7ing@(a
>Buffer(a
5llet
9(b
;bbbb
9!(b
@es(bbb
9Fees(ba
:or$s(db
9Id(b
9Out1(b
<2(b
:wner!(b
9ToClientAccount(dbd
9Withdraw(b
9s(bb
=b
>b
?b
:Delegate(b
5r$Addr(b
6acoinPerEther(a
5tcher(b
5y(a
4ebGiftEther?(a
:OnceMax?(a
6Info(cc
5iCap(a
6ExchangeRate(a
6ForMcr(a
6LockSeconds
6MinContribu~(a
6PerBlock(a
9CHF(a
:ent(a
9Satoshi(a
9$(a
9USD(a
<inTGE(a
7rice(a
6RaiseLimit(a
;d(a
<InPresale(a
8te(a
6UsdRate(a
6ght(a
;aj
:da
9LostPartLimit(e
9s(h
5th&!(b
4haleIncreaseLimit(a
8Max(a
5iteBacker(bf
>sByList(gG
8List(b
>a
=g
>f
<!(b
Ces(b
>min(b
=gent(b
<&(bf
<Dura~(a
<ERC20(b
@23(b
<InBatch(g
<Owner(b
<Status(de
Cf
<ed(bf
=r(b
<ingAdmin(b
8list(ag
=b
>a
>c
>f
=g
>gh
<!(b
Ea
Ef
>min(b
=gent(b
Cf
<Ballot(bf
<&(b
Aoller!(b
<Democ(bf
<Enabled(f
<ForBulk(gf
<In(bf
<Manager(b
=oderator(be
<Off
?(f
=n
=ut(bf
<Required(f
<Setter(b
=tatus(bf
<;(bf
<|(b
<ed(ba
@f
>!Main(gf
EPre(gf
>Batch(ga
>MemberTypes(h
>Status(ba
>;er(bf
>|(bf
=r(b
@f
>!(b
<ing(f
?!(b
@gent(bf
<s(g
4idthrawFor(caa
5ldCard$(a
7cardList(bf
5nNetworkFee(a
6Percent(a
6ery(bf
6ner(a
;a
;b
;daad
:b
;aaa
:ce
9Manually(a
9PlaceDistribu~(aa
:rizes(i
9@Status(f
7ingChance(a
:Team
5tdrawGas(a
6hdraw(b
;ABIHash(d
<ccount(b
<ddress(b
;Before@(a
;Creator(b
;Fee(a
;GasCost(e
;Limit(a
;Owner(b
;|(b
;able(b
<l!(b
Fb
=CoolingPeriod(a
=@(a
=|(b
;er(b
7outFee(bf
4onTeam(a
5od!(b
5rd(c
6kerAdress(b
7ing(f
6ldCupTeamDesc(ac
6st(e
8CaseRateFactor(a
3XCPlugin(b
4PAAssets(b
5&!(b
5ER&!(b
5ROMO_MULTIPLIER(k
5$!(b
4QU(c
4TVNetwork&!(b
=Endorser(bf
6$AirdropStatus(f
5oken(b
4Win&!(b
4auForGasCurrator(b
6rCoined(a
3Ycc&!(b
5m&!(b
5t&!(b
4earOneMultiplier(a
7TwoMultiplier(a
4xName(bc
3ZRX$(b
4eroMarker(b
4lots!(b
4o^(a
3_CWC_!(b
4Gas(a
4Name(c
4Rate(a
4Shops(gg
4Total(a
4active_contract
5ddress(b
;es(bb
6min(b
5llow_contribu~s(f
:refunds(f
5mount(a
4block(a
5onus_received
B(f
6untyPercent(a
5urned(a
4centralAccount(b
5oin_minimum_trade(ca
6mmandPercent(a
6ntract2address(b
6oldown(a
5rowdsaleClosed(f
4deposit_address(b
<fee(a
4end_block(a
5xchange_rate(h
A_in_eth(a
4fee(aaa
7s(aa
5ixedFeeInCWC(a
5ound~_addr(b
4gas_price_max(a
5ot_refunded
4hedge!(b
4koef(a
4lock_list(ba
4master(b
6xCWCsPerSaleLessThan(a
7DETsPerReturnLessThan(a
7UETsPerReturnLessThan(a
5inCWCsPerSaleMoreThan(a
7DETsPerReturnMoreThan(a
7FinneyPerHedge;(a
=ToKeep(a
7UETsPerReturnMoreThan(a
7_max_CWCsPerReturn(aa
<FinneyPerSale(aa
7imum_payment(a
<trade(a
7t(a
4new_admin(b
8dividend_share(a
4owner(b
4parameter(ca
6useCWC(f
9DET(f
9Return(f
9Sale(f
9UET(f
5ercentFee@s5(a
;_reduc~(a
5ool_percentage(e
5rice(a
9_and_sell(aa
9s(a
<aa
;eee
7vate_sale_total(a
4refererPercent(a
9ral_fee(e
7unded(f
4sale!(b
9gent(b
8_address(b
Bc
Bd
6vings_goal(a
5ell(f
5tage_Days(a
;iscount(a
7tus_user(bf
Bf
6opsell(f
8transfer(f
5uccessful_verifier(b
5ymbol(c
4tickerQuery(c
5oken(b
9_address(b
Cc
9s_received
6talSupply(a
5rader(b
7nsfer_gas(a
<rable(f
4value(a
5erifiedUsersOnlyMode(f
4whitelist_enabled(f
5ithdrawal_gas(a
3active(f
4ddrFWD(b
7ess(b
<bbb
5min
4irDropManagerLimit(a
4rg_1(a
8_input(a
72(a
8_input(a
73(a
8_input(a
3blnpereth(a
5ocksPerMonth(a
4onusDate(a
5unty(a
9|(b
4uy^(a
3coinfee(a
5mmissionPer(a
Ae
5nfigura~Ether^(a
@$^(a
4reatorAddr(b
4ut(a
3decimals(a
5vFee!(b
4irectorName(c
5ssolveaddress(b
;dcontract(b
;price(a
5vsforall(f
4ot(b
4teamVaultAddr1(b
A2(b
A3(b
A4(b
3e(b
4USD(b
3fee(a
6s(a
9aaa
4ounder!(b
4reeze(f
3ifoodCommunity!(b
8Dev!(b
4ssuedSupplyRatio(a
3largeBonusStop@(a
4ock(f
7=(ba
4vlNfee(a
7ominalValue(c
6Sign(c
6Update(c
6Website(c
3maxprice(a
4essiCommunity!(b
8Dev!(b
4inprice(a
4mVaultAddr(b
4sg(b
6prcnt(a
4y^(aa
3name(c
4extRoundId(a
4umber(a
3opVaultAddr(b
4raclegasprice(a
9limitgas(a
4therchainstotalsupply(a
4wner(b
8Info(bddd
3price(aa
8factor(a
3r2VaultAddr(b
4aised?(a
5teIco(a
7PreSale(a
4eleaseFinaliza~Date(a
4teamVaultAddr(b
3salesdeadline(a
4essionBlockSize(a
4hares(ab
4tring(ac
:cc
4ymbol(c
3tings
8(aa
8Ico(abaaa
8SetWeiPerMin$(a
9tate
9witchState
>;Access
8_added
4le
6(<ChannelLibrary.Data storage>
8NettingChannelLibrary.Data storage>
7a
8a
7bi
7d
6BBDBatch(gBa
7et
9(aa
;ba
:b
7uyer(ba
6Call(aab
8ndyGetx(a
6Deposit
6ETHBatch(gBaa
7therPolicy(ghhh
7xtra$(b
6From(bba
6Game(aa
6Investment(a
6League
6Put(aab
6Seller(ba
6@out
7ransac~(a
AByMediator(aaa
KFee(aa
6d
6ment(a
:Fee
:IsRunning
5vlement(babcc
4okenCap(a
8Deployer(b
5tal(a
5urnamentPrize!(b
4rusteeVaultAddr(b
3unitDefenseMultiplier(baaf
4p
5(<$><CrowdsaleController>
6a
7a
8a
9aaaaaaaa
Aahhh
?hhhhh
=hh
9f
8b
7baaaaaaaa
6b
7a
8ae
7b
8aa
8baa
9b
7k
6c
7caa
8cacca
7g
6eo
5Accredited!(ba
6irDrop(faa
6mbi2(b
6ndStartPreICO(ae
6ssetOwningListener(b
:Proxy(b
6uthentica~(bf
5Bounty(aaaaaaa
5Claim(a<$>
6omplete
=Flag
=d
7st
6rowdsale(a
?bf
6utie(tk
5DirectDebit(b<tuple>
7sbursement(baa
6one
6utchExchange(bbbbbaa
5EventsAdmin(b
;History(b
6xportFee(ba
5Fee(b
6inal(a
6unc~al!es(bb
8d(cbaabbbggedd
:dbaabbggedd
9ing(aab
<Info(aa
<Rate(a
Ba
<@(aa
Ca
5ICO(iiaawp
8Period(aa
6co(aa
6mportFee(ba
6nfo(ccc
7itialState
5Mintable!(b
6ultisig(b
5OpenDistribu~(aabb
6wners(g
5PREICOPeriod(aa
6eg(bb
7riodForICO(aa
>PreSale(aa
6hases(ahhhG
6reIco(aa
8saleClaim
5Race(aa
<b
:ii
6eclaim
7gion(Qaahf<uint8[128]>
<aahf<uint8[128]>
9stryICAP(b
5Sale(aab<$>
;b
9&(b
6tackDepthLib(b
8keholders(ghhGhhh
9ing^Feed
7orage(aa
5@Window(a
6oken(b
<bb
:Rate(a
6reasury(ba
7ustedAccounts
5VolumeMultipliers(hhh
5Whitelist(b
@f
5_race(aa
6token
5airdrop(bb
5ed
3walletOne(b
4innerLimit(e
2venWinner!es(a
;Withdraw
5teen
6hTeamWithdrawal
8ime
1fc(acc
1gc(a
3$
2pc(a
2t
3Exchanger
1ha256Docs(d
6ofString(c
33Docs(d
4Hex!(b
4_512
3Bid(dbad
3re
51
52
53
5?(baaa
5=(ba
<s(b
5&
6ycle
:Index
:SessionSize
5Dividends
5History(b
6olderBy!(b
=Number(a
;sOf(a
<|
5Limit
5Of(b
5Pot
6rofits
5@
9Gap
6oWei(a
7ken
5Withdraw
5active
5dExpense
=Withdrawn
6Storage
5holder
;(a
;1
;2
;3
;ID
=(b
<s$
;s
<(a
=b
<=
<Holding1y
<|
B!
5s
6(a
7b
8b
6!
6Chain$
6OfSPS
7wned(ba
6Raised
6$!
6_holders(a
>_balance(b
?count
4ingPool
2ieldsUp
3ft(ba
8f
5SalePurchase
5cash$
5er2HNtokens(ba
3ny
5Rand(kk
5TicketsClaimed(a
3p(c
4Products(cc
4ping(b
8Date
8Service
4s(l
3tFund
8!
4Rate
4tyRand(a
3va
2op
4(a
4Doublet
4Gloves
4Helmet
4Index(a
4Knife
4Moderators(b
4Pants
5riceDecreaseRate(a
4Sack
5ettings
5hield
6oes
5tore!(a
9Id(b
9NextId
9^
9Register
4Tome
4s(b
3rtAirdrop@
5Buy
5Lock
5Sell(eaa
6hare
5@Lock
5_party
6tokens(a
5enBonusPreIco(a
7Deadline(a
7PreIco(a
7Tde(a
7_end_block(a
3uldBeStarted
8Terminated
7oost(d
6CompleteDay
6Had=(b
6Liquidate(dbbbbaaaa
6StopCoinSelling
6UpdateFunder(b
6VerifySegment(ayadl
3w!es
6min
5ssetDetails(d
9Event(da
9Info(d
5uthorizerOne?
>Two?
4=
5lockmaticsCertificate
5onus(b
4Certificate
5ollectors!es
>=s
6ntributed
4DemurrageConfigs
6vCut
4Eth=
4Freezed$s?(b
4Interval
5ssueDetail(bd
4LastGlobalAudit@
5ockState(b
?a
4MeTheMoney(ba
5igra~?(b
=Stabitcoin!(b
5oney;(a
6seEvent(i
5yAnimal=
6Ether=
B(b
6$=
B(b
4Number
4Owner
9&
4PendingAdmin
5layerScores(b
5rivateVars
4RandomWinners
5ecastConfigs
4Supply
4Team
5ime(b
5oken=(b
9SaleClosing@
9sUnfreezeDate(b
6pWinners
5ransferConfigs
6nsac~Log(a
4User(b
4Value
9(b
6ult
5otes(b
4_Accrued_Interest(b
5=_available_for_Sale_in_ETH_equivalent
=of_interest_bearing_deposit(b
5Candidate_Victorious_in_Elec~
5The_name_of_op~_C
5automated_Buy_price
5me_the_money
6inimum_amount
5number_of_days_since_bank_opening
5the_minimum__reward_period
9name_of_Op~_D
4me(aaa
2p
3ExchangeRate
2r$
2uffle(h
3liang
3t(d
4Down
8Fund(b
8Version(a
4ForDai(a
7ETH(a
4ThatShitDown
4down
8Transac~s
D(b
1ibling
2deData(d
4Service2index(b
;s(b
<Count
2g(b
3BountyProgram!
@EDUSupply
3Destina~Approve
EAndCall
>;
FFrom
3TeamAndAdvisers!
BEDUSupply
4oNumSales(d
3_to_add(q
3n
4(a
6ba
5b
5c
6c
7cc
5j
4Buyer(a
4&
<(a
=dcf
9ollerChange(b
4Doc(rb
4Escrow(a
4Fork(ad
4Hash(a
4In(b
4Out(b
4RecoveryChange(b
4Seller(a
6ndDiamond(dccbcqa
8Flower(dccbcqa
4ToApproveAdd$Data
I(a
=$ControlInfo
M(a
6ResetAdd$Data
;$ControlInfo
5ruelove(dcc
<ByCOO(dcc
4Up
6(ghc
6DelegatedUser(cbedd
6ForAirdrops
9PVP(a
=i
9Tournament(h
Dw
6On
6User(c
5serChange(b
8KeyChange(b
4Withdraw(b
7ness
4alCount
6DoneDistributing(a
6$
7radeIntent(b
6s(a
5ture
9(cbd
:da
9BurnStatus(d
9Checker
@Freezed
9DropMultiple?(gh
=Single?(ga
9Owner
9drops(b
9s(b
4edApprove(Ebbaaajb
Abaaajb
>bbaaajb
=AndCall(Ebbajaajb
Hbajaajb
Ebbajaajb
DCheck(Ebbajaajb
Mbajaajb
Jbbajaajb
DHash(Ebbajaa
Lbajaa
Ibbajaa
DSig
=Check(Ebbaaajb
Fbaaajb
Cbbaaajb
=Hash(Ebbaaa
Ebaaa
Bbbaaa
=Sig
7verage(mm
6ByWhiteHat
6String(b
<UploadedOnUnix@(b
6;(Ebbaaajb
Bbaaajb
?bbaaajb
>Check(Ebbaaajb
Gbaaajb
Dbbaaajb
>From(Ebbbaaajb
Gbaaajb
Cbbbaaajb
BCheck(Ebbbaaajb
Lbaaajb
Hbbbaaajb
BHash(Ebbbaaa
Kbaaa
Gbbbaaa
BSig
>Hash(Ebbaaa
Fbaaa
Cbbaaa
>Sig
5r
61
7_proposal
62
7_proposal
6!
6s
7(a
8b
4ingLogic
7Prefix
4s(a
4upFee
6UserWhitelist(g
Ea
Eh
:sManually(b
6s(b
2lencePeriod
3o
4_addr
5timer
3verPercentage
2mple$
6transfer(baa
3ulateOp~s(iiiiiei
8PathwayFromBeneficiary
8_ico
8dBlockNumber
9_snt
=(b
4s_locked(b
6simuDate(b
2n
3(k
3g
4By(b
4leDVIPQty
7igitBlock
6IDXMQty
7nvestorCap
6LockFinished(b
6Payout(ba
6TransGasCost
6ValueAirDrop(ga
>drop(bga
;Batch;(ga
6Withdraw
>Max
?in
6_card
7move(aee
4ularDTVFund
;$
2reAllowedTo!(a
Et
4Genom(aa
3ingAuc~
2ster
6Check^(a
2t
3Exchanger
3e
4Account
4Percent_
4_url
3ua~_challenge
2xMatchPayoutInPercent
3thExtendedBonusSalesEnds
5TeamWithdrawal
6ime
2ze
4(<!SetLib.!Set storage>
=UintMap>
6ContentUtils.ContentMapping storage>
6SetLibrary.Set storage>
42
4Bonus
4Limit
4Of(<CLL>
8LinkedListLib.LinkedList storage>
7a
6Providers
6User!es
4s(e
1ketchAuthorCount(b
6IndexToAuthor(a
=Data(a
=HighestBid(a
>older(a
=Name(a
=Offer(a
>wnerFlag(a
6NoLongerForSale(a
2in&
5reatedLimit
;Num
4IdToOwner(a
4OfAccountById(ba
3p
4InLine(aa
6itBecauseIAmNotOg(bbaaaaua
4Map(a
4Payment(af
2l
3$
2r
1lackUsersCap
3mmer@
3shDownRequest(abad
5Power(bad
5Stake(ab
5Transcoder(bbaa
3tes(da
3veServer
5|
;Initialized
;Percent
BInitialized
5nAdress
2eep&
2ice(wee
516(ja
52(ja
532(ja
54(ja
5!(ja
5Bytes20(ja
3ng(cccca
3ppage
2ogan
6s(l
3peDura~
5ReleasePercentage
3t
4(b
4Cloth(b
4Hat(b
4Pant(b
5et(b
4Shoes(b
4Weapon(b
4s
5(a
5Data(d
5_left
3wDump
1mall
5BonusPercent
5CapLimitOf(b
6ount
5^
5Rate
5Size
5_payout(a
5estUnit
<Name
5ponzi
3rtContactForSale
9ractIsForSale(a
=^IsSet(a
=SaleEnded
>tartDate
5SpeedEarning
5$
5contracts(a
2bl
2g(a
2sCertifier
3VerifiedBonusBps
2xSold
3Team!
1n
2ailPot
5masterReq
3ke(a
5masterReq
3pShot(ab
4shot
8At(a
8=(b
9lock
=Height
8DailyGooDepositFunding
@ResearchFunding
8@stamp
8Update(bac
8s(a
:ba
3tchWindowOf(a
6edOn
2ipCoinToEtherExchangeRate
2pb(a
2sOfOwner(b
2t
3Controller
3_claimed
;(b
1ocWarefareAddr
3ial(b
6IdentityOfClaimer!(ab
>ToCardId(aa
2ftCap
7(a
7?
7CHF
8lose
8ountDown@r
7FundingGoalInCents
7In$
>s
7Limit
7Ok
7PreSale
9ice
7Reached
7@
8oken
<s
=?
8riggered
7USD
8sd
7Wei
4EndDate
5th;(ba
4FundingGoal
4Mtc;(ba
4Withdraw
<RevenueFor(b
>wardFor(b
4_cap
4cap
7Achieved
7In$s
7Reached
7USD
2l_clean(aa
3d
4(a
5b
5d
5k
4!es(b
5mount
5reas(a
4Beercoins
6foreUnsoldAlloca~
5yChannels
4CWC(bad
5ards
5oins
4DET(bad
5ragons
5uring$sale
4ForFifth
9rst
8orth
7Second
7Third
4IdeaWei
;Ico
;PostIco
<reIco
5tems
4Keys
4List(ba
4OnCurrentSale
6Stage
4PerCurrentRound
7cent
5reSale$s
7sale
4SS
5ale
5oulBecause(b
8For(b
5upply
4$
9Count
9InPresale
<ublicsale
9Value
9s
:Count
?er
:Ico
:Limit
:OnIco
<PreIco
:PreIco
=Sale
:Sale
:Total
:WithoutBonus
6tal
4UET(bad
5nits(aa
4edSupply
4iers(a
8info(b
3idityCompileVersion
3lReserve
3u~ForChallenge(d
8s(a
3ve(0
6aaaa
6mmmm
5Bet(befe
=dd
5Game(aa
5Puzzle(a
5Task(aa
<aa
6ime
5d(cc
5ncy
5r
6s(a
2meFunc~
<2
<3
<4
4Value
2ngTitle
5okenExchange
2rtAuc~(h
4Numbers(<uint8[3]>
4WinningNumbers(<uint8[5]>
2ulBookPage(a
4Counter(b
4IsOwnedBy(b
4eculeB(b
9G(b
9R(b
4sForSale
5Sold
3ndEffects(aa
3rce
6&
6$
;s
3thadvisor
2w(a
3Corn(be
3ed(b
1pEntries(a
2aceCount
3rdosenName
4k
4tans
3wn
5Asset(baaa
:WithCreator(baaab
6xie(ab
5Instance(baaa
6tem(aab
5Monster(ab
5NewZeroCard
5RaceManual(aaf
5Site(aab
5|(b
5ingManager
2ec(a
4D|
4Hash
4U|
4|
4ial
7Accounts(b
8llowed(b
7Bonus(b
7&
7Fees(a
7Gym
7Info(a
7Kitties(a
7Manager!Map(b
ENumberMap(b
>CountInt
>ListMap(a
>Off(b
?n(b
7PoolsRate
8urchase
7SanMint(ccb
8end(ab
7;(ba
7|
7_offer(b
7s(b
8Info(a
5ficApprove(ba
8;(ba
@From(bba
6yController(b
4treTeam
3ech(k
6OfOwner(b
4d_limit
5s(a
6Dev(a
6Test(a
3nd(ad
6ba
8eddedd
5Advertising(aa
5Credits(ba
5Ether(ba
5Money
5Nonce
5$(a
5User=(il
5ableAllowance(bb
9=Of(b
9_supply
5er
7!
5large(aaa
5tokens(baaa
4tAllowance
>(bb
5=
6yTeam
5ParsecCredits
;s
5Today
3rmlord!
9Req
2iceUp(ac
8c
3derReq
3n(d
5m
4All$s
4TheWheel
<(b
4nerCounts(a
=ByType(a
7Modulus
4s(a
3ritual_guidance
2lit
5(CC
8C
6a
6b
7b
7dea
6dea
6e<bytes6>e
6fb
6g
5Bid(a
5DAO(ab
5First(cc
6unds(c
5Genes(baa
5InService
5ProfitVIP_only_Dev
;s
5Share
5$sBeforeDistribu~(a
6rade(a
5Winnings(a
5s(a
7b
5ter
8Names(b
2onge(<uint[9]>
4see!
5or
7(a
8baaa
7Infos(aa
7Level
8ist(b
7Opinion(aef
7Value
7edBonus?
>Max
?in
>$
9Jackpot?
@Max
Ain
@$
9LeaderboardData&
7s
8(a
9b
3tsLeft
2read(bgh
7f
7gh
6Percent
6$s
3iteOwningHistory(ba
1qrt(a
2uak
4reWins(aa
3irrelReq
8masterReq
1rb(a
2c
1spRegistry
1t4ckCount
5Height(a
2_players(aa
2a
3bilityBoardProxy
4les
7Cities(a
3ckCounter(d
5Owner(d
5s(d
6;red(d
3ff(a
6b
5ETH(a
5Info
5_1
62
63
64
5address(a
5s(b
3ge
5(aa
51
6Bonus
8unty
6Deadline
6Start
6$s
6_price
7start
52
6Begin@
7onus
8unty
6Deadline
6NotReached
6Start
;@
6$s
6_price
7start
53
6Begin@
7onus
8unty
6Deadline
6Start
6_price
7start
54
6Begin@
7onus
8unty
6Deadline
6Start
6_price
7start
55Deadline
5Admin
6mount
;s(e
<Direct(e
5BaseRate
6egin
6onus
:(a
:Percentage(a
6uys(b
5Cap
8(e
8s(a
6lose
6ount
6urrentSum(a
5DataStore(a
6evelop
6istributed
6ura~
5Eco
6nd(a
5ForBlock(a
7urCap
9End
9Start
5ICO
6T
6ndex
5Lending
8gth
5Marketing
7xBonusPercentage
6gmtSystem
5Name
6ow
6umber
5One
8Cap
9losed
8End
8Rate
8Start
9upply
5^(a
:s(a
5Rate
9s(a
5Settings(b
6tart@
6um(a
7pply
;(e
5Three
:Cap
:End
:Rate
:Start
;upply
6okenMul(a
6wo
8Cap
9losed
8End
8Rate
8Start
9upply
5_1_$sSold
8add
8price
8tokens_scaled
62_$sSold
8add
8maxcap
8price
8tokens_scaled
63_$sSold
8add
8price
8tokens_scaled
6Days
7iscount
5dVestedLockUp?s
5s
6(a
7e
7i
6Count
6Manager
6_dura~(a
3ke
5(a
7a
7daaa
7j
6b
7b
6daa
5!
5=(b
<s(b
6ela(a
9Split(ab
5Commence
7nfirmed_Eth
5Dice
5For(ba
;j
8Dura~(baaj
8Wei(a
5GLX(bb
8ForContributors
5Holders(a
<Weight(b
5MaxAge
6inAge
5Of(b
6nBehalf(badaaa
5Period
5RemainingToVote_Eth
5SDC(ba
6cale(a
6tart@
5ToMany(hh
7Withdraw(b
7ken&
:s(a
;Manually(baa
5Voted_Eth
5Waived_Eth
6ithSignature(daaaaj
5_reward_rate
5d?s(b
5holders(a
<Pool!
5r
5s(ab
7b
8a
4ingBonus$s
7&
7Mint?
;Rate
7Percentage
7Requirement
7$
3lePeriod
5@
4lionWith(aa
3mp
5Birth(ab
5CreatedCount
5IndexToApproved(a
<Owner(a
:todissolved(a
<transac~s(a
5$(aaa
5ingWhitelist(b
5s(a
3nd
5(a
7pdeedd
6bpdppGadd
6pdp
5AndRebet(apdeeddaddd
5FeeAfter500
8Before500
5ard
8DailyLimit
8Fee
8GrowthRate
8Release?
8Sale
9igs(s
8$
=Defrosting(g
8rate
7t
5ing
8OrdersByOwner(ba
@Payee(ba
3rAuc~s(e
4Bids(a
5uy
4CountForCard(a
9sForOwner(b
4EthRate
4IndexTo!(a
;STRZMasterName(a
?Name(a
4LightyearDistanceMapping(e
4NoLongerForSale(a
4Sell
4$
4Up(aaaa
6Zero(aaa
4baseCrowdsale
8EarlyPurchase
9pAmendment
8MarketingCampaign
8$
5it|
4s(b
5Of(a
7feredForSale(a
5RemainingToAssign
4t
5(a
7a
8aa
8b
6b
7a
6c
7caaaa
7lei
6d
6e
6i
51BonusPeriod1
6stRound
52BonusPeriod2
53BonusPeriod3
6XPhase
54NormalPeriod
55Phase2020
56Phase2025
5AcceptingDona~
>FundsBlock
6irdrop
<(a
=ga
>h
<From(bga
<@
6lloca~
6ndSetParams(aa
;Stop@(a
6t
7Block
<Number
6uc~
<(aaa
@ab
=ca
=d
<Fee
<s(o
=AndBid(od
5=
6et(a
8ting(ii
6lock
:(b
:Bonus
:Number
@_
:Profit
:@stamp
:jack
6oardProposal(ab
7nusCompaign(a
:es
7unty
6uy
8BackDate
8back(aa
8ing(a
5Call(aedd
7r(<RaceLib.Race storage>ba
8dSale
6hampionGame
6ircula~
6laim
7oseSale
>Phase
6oinFlip(ddd
9Sale(ab
7llecting(a
=on
7mpanySell
9eti~
7ntract
:ibu~
:uibute
7untDown
6raftingAuc~(aaaa
7eatingAss(ccaaa
7owd(aaa
>ee
:Sale
:fund
>(a
:sale
>(a
@aab
Be
Bhh
?bb
?cceaaaaaabc
>0(b
>1(b
>2(b
>Phase1Date
C2Date
C3Date
>@
>Y0(b
?1(b
?2(b
5Date
91
92
9OfRestoreUnsold$s
;SaleStageLast
;UseTeam$s
9s(a
9time
7y
8One@
6efinedGame(a
@Manually(a
6ispute(a
8t
9ribuion
=te
>ion
A(a
7videndDistribu~
6ona~
=s
5EarlyAdopters
:Bird
:Stage1
?2
?3
?4
6nrollment
6poch@stamp
6thGet
;$
8ToCentsRateUpdateCycle
6valuating
7ent
6xchange
5FavorEscrow(aaa
6inalStage1
?2
7rstStage
6reeGet
7om
6unding
<(aa
<@
9raising
5Game
9(a
;aaa
;d
;mg
:b
:cc
:ga
:id
9Gas
7sCalcula~
6eneralSale
6iveaway(ia
6rantAuthentica~(b
5ICO
8(a
:a
;a
:b
9b
9f
8Date
8Phase
=One
=Three
>wo
8Stage1
=2
=3
=4
=5
8@
<stamp
8_20_December
9w1
:2
6co
8(a
:a
;a
9f
81(aaaaaaaaaaa
82(aaaaaaaaaaa
83(aaaaaaaaaaa
8Date
8ForOp~sHolders
8MainSale
8One
8Phase(a
9reICO
>2ndRound
8Two
6ncentiveDistribu~
8omeDistribu~
7vasion(ah
8ite
6temRaffle(aa
5Leaderboard(lll
6isting
7ve
6ockPeriod
9@
9UpSec
9ingPeriod
5MEAMission(aaea
6ainSale
7nualPeriod(a
7rk
9et(ia
7sterCopyCountdown(b
6igra~
>(b
7ning(a
<b
8t
9(afa
9ing
<(c
=f
<Data
?e
6onarchyGame(a
AReward
6ulti
5NewAuc~(llll
8Ballot(dfo
:ttle(aaaa
8ICORound(aa
8PayoutPeriod
8Race(ahaaa
9ound
=(abbaaa
8StakingInterval(aa
8Vote(ac
7xtCycle
9Era(d
>aaa
9Milestone
9Phase
:remiumSale
9Round
6ow
6umber
5Of(e
7fering
=(a
?aaaf
6penWindow(aa
8ra~
7~sSelling
6rHoldCrowdSale(fffaf
7aclize(a
6ver
5PREICO
8SALE
6VE(a
6artnerSale(a
7yments(aa
8outs
6e@
7riod(aa
6hase(aaa
>a
:1
:2
;(a
:3
;(a
:Length
:Maximumcontribu~
;inimumContribu~
6laceOrder(ab
6oll(aaa
7rtalGun
7stICO
:co
<(a
6re
8Distribu~(aabbb
8ICO
;(a
<b
;Stage1
@2
@3
;@
?stamp
;now
9co
;(a
=a
>a
;Date
8PreIco(a
8Sale
<(a
>aaa
=baaa
<1
<2
<Phase
<Round
<Stage
<s
8ico
8sale
<(a
=b
>a
<Date
<@
7ice
:(a
:ForHLPMT
8vateICO
<PreICO
<Sale
@(baa
@Stage
@s
<saleDate
7oICO
8duct(cccm
6ublicSale
?(a
Aa
?Stage
;sale(aa
Ba
7rchase$s
5Quater
7eue(b
:ing
5RC
6areRaffle(aa
7te
6ebuy@
7deem(af
;ing
7fund
;InvestorsBallot
;ing
;s
7gularPhase
7lease
7vealingPhase
6ick
7tual
6ound
:(aa
;dd
;f
:A
:B
:C
:D
:Seed
:WithFirstBet(aaad
5STO
6ale
9(a
;a
<a
=aab
=b
;f
:b
;aaaa
:hhaa
:ill
91Phase
92Phase
9Phase(aa
9@
6coring
6econdPhase
;Sale
<tage
;aryCrowdsale(a
7edStage
7lling(aa
=eaan
<Genes(aab
7ttlementPrepara~
Aocess
:ing(d
6lammer@(bMbM
7otAt
6paceship
7readingBlock
6tage(aaa
>a
:1
:2
;@
:3
8kingAt(a
8ndardSale
7op
9ICO(f
6weepStake
5Take$
6de
6ge
6hinking
8rdPhase
6ime
9Day
9EarlyBird
9ICO
:co
:nMinutes
9Main
9Number
9OfSaleLot4
:ne
9Pre
<ICO
=co
<sale
;ivatePreICO
9Refund
:ound1
>2
9Sale1
=2
=3
=NoBonus
=WithBonus
:tage1
>2
>3
9TLP1
<2
:wo
9_
9s
:(a
:tamp
>Ico
>OfBonusPeriod
6oken
:(<DRCTLibrary.$Storage storage>b
:Distribu~
:^Wei
:Raffle(aba
Df
:Sale
>(aa
;wap
:Votes(<address[10]>
J5]>
:sSale(aaa
Ca
@ba
Baaa
7urnament
6radable(f
9e(bbaaa
;caf
9ing
<(f
8ining(leeee
8nsfer
=@
=s
5UnitRaffle(aa
7limitedSale(a
8ock
6pdate(a
7grade
;ing
5Vesting
<(aa
6oting
;(a
=a
=c
<d
;Prepare(b
5WeekFive
:our
9One
9Three
:wo
6inery(ccca
;ProductByRegulator(ccccm
7thdraw
6onderAuc~(cb
7rk(c
5_
6ICO
91(a
92(a
6LOCKUP(a
6POSTICO
7REICO
6amount
6block
6date
7eclara~
6ico
6of_report_period
6the_race
7ime
7oken_time
7s
5block
5date
5ed
7(a
7At
7NewVote(baca
7WorkTS
6rClasses(a
7PackCardLevel
;^
6th
5increaseWithdrawalTeam
7g?
9t
8Bid
;Of(a
9lock
=Around
8CostToPress
8DateFunding
8EtherValue
9xchange^
8Fee=
8Index
:surance=
8Point
9rice
=Of
?(a
8Snail?
8@
<stamp
8_clones
9giveaway
5line
7stUploaded
5newround
5produc~
5s(b
6At
6With(CC
6ecurities
5time
5up(ab
3sh(a
3t
4e
5(<Call>
;Lib.Call storage>
6a
6b
6d
5BorrowerDefaulted(a
5ChangeAgents(b
6ode(a
7ntrol
<ler
5EndDate
5Fail(a
5IndexToApproved(a
<Owner(a
6s(e
5Mask
5OfICO
5Phase
5SetLocked
8Open(i
9ver
6tartDate
5ment
5s(a
7b
4icCall(bjj
6block
6oins(a
5stics
4s
5(a
6b
5ByDay(a
4us
6(a
7b
7d
7e
6Contribu~
6Doacao
6Event
6I
7CO
6Opera~
6es
8(b
2b
2d=
2ealCardWithId(a
=SocialIdentity(aa
=TwitterId(a
5TheLeek
5_reveal(ba
3p
4(<CLL>af
:mf
5k
40Rate
41
42
43
4Dura~
4EtherValue
4For^
4LockCheck
8ed$
9nd(e"

end Listing
end EvmFlow
