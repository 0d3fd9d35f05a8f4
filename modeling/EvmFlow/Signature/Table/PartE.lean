/-!
# Known signatures, part E
-/

namespace EvmFlow
namespace Listing

/-- Known signatures from `buyEth` to `confirmations`. -/
def partE : String :=
"0buyEth(a
6Cards(aa
6Lootbox(b
6Unit(aa
6er(a
8eum$
4xchangeRate
5istFactory(a
3FST
6(b
4actor
9Promo~
4ci(ba
4ee
6MilliPercent
4irstPackFromReferral(bf
8$s(bbgjhh
>OnApprove(bbgjhh
@;(bbgjhh
4lower(a
4ood(i
5r(b
8b
6Bitcoin(ba
7tc(baaaa
6Everybody
6Friend(b
6HackerGold(a
6Investor(ba
Ac
6Whitelisted
7orkOrder(abbbcbb
4reePixels(aaaa
5om(b
9a
7BlackMarket(aa
7CurrentOwner(a
7RC(baa
7TrusterDealer(baa
4ucks
5el(b
5nderSmart$(cc
3GEN0Chibi(ccea
4an$(a
6a(b
5sLimit
4em(a
6s
4ifto
4old(aaedd
8dccccc
;dccf
7s
4rapes
5imReapersAgainstEther
4uardian(aaa
;Rune(aaaa
3HLPMT
4SShop(a
4eart(b
4o(a
4unterLicence
3ICO
5loudSecsAgainstEther
4PC
4ceDrangon
5o$1
;2(a
4deas
4magePriv(a
4n
5Market(a
=a
5Saturday
6hare^
5WithAll=
Cd
5dex(abf
5s(a
5toSyndicate
4ssuer$s
4tem
7(a
9a
:aa
9b
8ba
9ea
8ca
8eeaa
8l
7AndApply(ca
7RaffleTicket(a
3KNOW
4WHAgainstEther
4ebabs
5y
6ByAddr(b
6Use=(a
6WithReff(c
4im(a
5ssBTC
:WithCallback(ba
4nowledge
3LC
5R$s
4ambo
5nd(SS
8a
7ForCandy(a
:Eth
4imit(a
5sting(D
;a
;da
5ttleDragonGirlLottery
4ong(vJe<bytes32[3]>
9Me<bytes32[3]>
9ye<bytes32[3]>
5ttery(e
4uckyStone
3MNC(c
4asterNodes(aa
4essage
4ine(e
7r(h
8FromSale(a
8sWithEther(l
=Gem(l
6ting!(aa
4onument(aa
5rties
7y
4ultipleItems(e
:ier
3NDC(aaedd
4OS(a
4ac(b
8a
5me(c
4ew(aaa
5xtRank
4inja(b
4ow(a
3Obizcoin$s(b
5ject(b
4ffer(aabd
4ld(a
4megaEgg
4nApprove(babgjhh
5Behalf(b
;WithCustomerId(bn
?Signed!(bnedd
5;(babgjhh
5e(bbaj
6Rabbit(a
4pen
5~s(ba
=c
4racle(jb
9For(jbb
5der(Ya
9a
9baa
8=s(d
8Total
8s
9(a
:d
5e
4ut^
4wn(ba
6edPixels(d
4x
3PRETDE$sWithoutETH(baa
4ack(a
8e
7WithERC20$s(eb
<TH(f
;Kitty(a
5rticipa~$s(a
5tent(k
4erUnit(ba
5ts(aa
4hase$s(b
4ickaxes(b
5ece
5xel(ad
9bkKc
9kkK
8$(KaK
=For(KaKb
4lanet(a
6tinum(aaedd
5ot(aa
4oints(a
5ohs
5rtfolio(baa
5tato(a
4reSale(a
;ba
:$s(baac
6sale
:(b
:$s
@(b
5ice
8(a
9e
8At(a
8Eth
8Final
8InWei
8_wie
5oduct(ba
<ba
6perty(ka
;InETH(k
=PXL(ka
4unk(a
5zzle(e
3RBC$s
4affleTicket(a
5nk(a
5reEgg(eab
7Item(a
5te
7(aa
7ZeroQuantity(a
4ealm(aaa
5cipient(b
>edd
5direct
;For(b
5fer$s(be
5gion(aaac
7stra~
4ock(a
5seETH(c
7GRLC(dca
3SPIKE
4addleShop(a
5le(b
7CardFromSys
7NonReferral(e
7Referred(eb
7$s(b
5mple$s(b
9s(ab
5nSlot(ba
4ec~(aac
5eds
5ll^s
5rvice(baj
;ll
:ByAdmin(llb
4hare(af
8Priv(a
8s
9For(b
<Proposal(a
:romListing(a
5ip(i
8k
7s(aaf
6tClones
4ignature(q
5lver(aaedd
4ketch(a
4lot(a
4mart&
8Speed
4oul(b
4paceship(k
<Upgrade(Dke
Dake
5ecialBuilding(aaa
5ike
6ns(a
5rite(a
4qr(a
4tamps
6r(a
9a
9cc
7Initial(ac
7terPack
6tus
5ore
8s
4uperDragon
6ply
3TDE$sWithoutETH(baa
4PT(aaedd
4ank(i
4eam(a
4hroughProxy(b
4icket
9(a
;ab
<c
;c
;e
:b
:c
:eNb
9ByEarnings(aac
9WithRef(b
9s
:(a
<pf
;b
;d
;h
<aa
=j
:For(b
?a
5le(a
4kn(a
4mr(b
4o(b
5ken
8(a
:cc
9b
:a
;ab
=db
9d
9iib
;ib
8For(b
9rom(bba
<Moderator(abaf
8Orders(l
8PerEther
8s
9(a
;a
<j
;b
<aaabedd
:b
;a
<a
=aa
=c
<b
<c
<sd
;b
<a
<ba
;cc
;d
;e
;j
:c
:d
;aedd
:eb
:ghhbdb
:k
:laedd
9Altercoins(ba
:tRate(ba
9Bonus(b
:yAtes(bac
;Op~s(bac
;Referrer(bb
9For(b
>aa
>b
>daeddedd
>laedd
<!(b
<Fiat(ba
<Proposal(ab
<Self
9ICO
9OnInvestorBehalf(ba
IBatch(gh
9PreSale
@(ba
<sale
@(b
9Referral(bc
9Signed(bj
9T4T(b
9ViaBackend(ba
9WithGuarantee
=Icon(ba
=Poly(a
>roperEvent(be
=Ref(b
@eral(b
Brer(b
E!(b
=UpdateRate(ba
5pDog(aa
4radeConfir
6nsferFee
5ee(ab
4ulip(dk
8s(ik
4wo(aaaa
3UFT(b
4SD(ba
4cCoins
4nicorn(a
:WithCandy(a
>Eth(a
6t(aa
7RaffleTicket(a
4pgrade(a
:Card(a
3ViaJohan
4olumes(bb
5tes(e
3WanCoin(b
4eapon(a
4ildcard$
5ne
5th!(b
>AndFunc~(bs
7Bonus(b
7CustomerId(a
Bbaanaf
Bc
Bn
AWithChecksum(nA
7ETH(ba
7Func~(s
7Hash(baad
7KYCData(jedd
7Limit(aa
7Promo(b
7Referral(b
@n
9ward(b
7Signed!(nedd
7$s(b
=By(bb
4orkWith$(ca
6ldCupTeam$(a
4uxiaMaster
3Xaddr(b
:a
4gold$s(b
4id(a
8a
4name(d
:a
8QR(bda
3ZoAssets(d
5ne(a
3_Exchg_BkgChk(baaba
:booking(baaba
4beer(aa
5lock
5ounty
4drink(aa
4end_time
6ergy(biil
?il
4for(b
5rom&
4lovelock(ccca
=dccca
<_withLOV(dccca
4planet
4sale
5pice_melange
4the_tokens
>(c
?d
?j
5ickey(b
:_free
3able
7token
4ndearn(a
3back
7(a
8b
7^
<Of(a
3er
5(b
5!
5=(b
<s(bbab
6onus
:(b
5Cancel(qbbak
7pHighEther
8LowEther
6ount
5Database(ba
6ecimals
5ExceededApproved?(ab
5FundRelease(a
9ed(fb
5History
<(baa
5InfoOf(b
5LastPaidAt(ab
6ist(a
:b
5NumDeals
=(b
5Rate(b
5Symbol
5ToSentWei(b
7kenName
5_cancel
6pay
5fee
8Divide
5s
6(a
7b
6Received(b
3floaksAgainstEther
3in
5(b
7a
6edd
5As(b
5Internal(ba
5Return(b
5fo(a
5gEscrow!
6^
5s(a
7b
3now^
3out
6(a
8faa
7ba
6?
7ndSetReferrer(afaab
6Cost(a
6DividendPercentage
6FeePercentage
6|
7ithData(acccc
6sEnabledFrom@stamp
3pr0coinsAgainstEther
3s$s
4oldiers(a
4ubscribers
3tobeneficiary(b
5ken(a
8s2
1va(baab
6b
1yPonzi(b
2$s
2te^
4s32Storage(d
7ToString(d
@k
564ToString(dd
5Storage(d
5ToAddr(j
;ess(j
7Bytes2(j
<32(j
<5(j
<8(j
7String(d
7UInt(d
8int2(j
4therOV!
2uoutActive
6Count
0c
14c
3fee
1EthereumlotteryNet
1HWCtoEth
1PT
1Sale
1@
1Varia~s(a
2ideoCost
1_MaximumFunds
3inInvestment
2STQperETH
2end@
2paymentChannelBonusPercent
3reICOBonusPercent
2start@
1ache
5(d
3ulateFee(bae
2ddress
2ge
4(a
6a
4d
2lHpDeducted(kkkkf
3New$s(a
>c
3c(a
4?
:(aa
:At(aa
?a
:WithBonus(ae
6tReclaimable(b
5ndGet
5verageICOPhaseKey^(a
4BUYoffer(aa
5indedBlindHash256(cb
C3(cb
5onus
9(a
9At(a
9Percent
9$s(a
4Cak?(a
5ollectedFee(a
6nfirmsNeeded(aa
6st(bea
6unt(a
5urPointsForAcct(b
7rentMinBid
;$^
4Dividend(ba
5oubleBindedBlindHash256(cbb
I3(cbb
4EffectiveOp~sForEmployee(bi
5thersTo$s(ae
4Fee(a
7s(aaa
:ca
5ight(llaa
6n
6xedReward(a
5lexibleReward(a
4GainE8(aa
6v
4ICO(aaa
5nvesting(b
4KeysReceived(a
Ba
5icks(a
4Marginal^(be
7ketFee(a
6x
7Withdraw
?(b
5ode
4Nav(aa
5etworkFee(a
6wEmployeePoolOp~s(a
7SkinAppearance(nn
Hn
6xtDraw@
8NBonuses(a
8^(a
4PlayerICOPhaseKeys(aa
5oseBits(aaa
5resale$Supply
6ize$sE18(aaa
6ofit(bea
4QueryCost(aa
4RandomNumberAndGetPreliminaryGameResult(al
6tes
5efill(ca
7und(b
6serve(aaa
7olve(baa
6turnValue(aa
6venue(b
6ward(a
4SELLoffer(a
5hare(aa
9^
>AndAllocateFees
5take(aa
6op^
4@
5oken
9Cost
9^
9Rate
9s(a
:AvailableToBuyback
:ToEthers(a
6tal(a
5radeFee(aa
<Multi(hh
7nsfer(a
4UnclaimedFees(a
5serDivsAvailable(b
<Total(b
4ValuePerShare(aa
5esting(b
4WeiFor$s?(a
5idthraw(ca
6nnings(aa
4_wei_rewards(aaa
4aultePrizes
?(aa
4eth(a
4keys(a
4pustprice(aa
4ulatVote^
8e
9(a
;aa
9!(e
:llBuyBackSum
<oca~(b
:mount(baa
Bbja
@cl
?Bonus(a
?ForDAI(a
BETH(a
?OfUnits(aa
?ToRelease
:ntBuy(aa
?Simple(a
<Sell(a
:rea(Qa
>a
:veragePixel^(Qaa
Kaa
9=(aa
;se@out
;ttleBoost(kbb
:estPrecision(aaaa
:id(a
:oardScore(a
;nus(<uint96>
?a
?da
?eaa
>ForHours(a
>InRange(aaaaa
:ucketId(o
;rnGoldFee(aaf
;yGoldFee(aa
9CHG?ToEther(a
:ellBuy(aa
@Simple(a
=Sell(a
:laimableReward(b
HTillRound(bl
:oinBuy(aa
@Simple(a
=Sell(a
;mmission(a
Ea
Di
CToWithdraw(i
;ntribu~(a
;st(aa
;untOfInvestmetnsInQueue(aa
>erReceived(a
@s(aaaa
>ryCut(a
:reatorFee(ba
;ossConnectorReturn(aiaia
:urrDynamic^
=entMarketPixel^
P(Q
@^(a
E_(<address[7]><uint256[9]>eeeejjj
SLeeejjj
9Demurrage(aa
;vCut(a
<Fee(a
:ispensed$sForGas^(a
<tribu~Periods
;vidend
A(ab
A$s(aa
As(a
Da
:rugBuy(aa
@Simple(a
=Sell(a
:ura~(a
9Earnings(a
:ggBuy(aa
?Simple(a
<Sell(a
Ba
Bb
:mission$s(aaaa
:nd@
:stimate$(a
:th?(baaa
<ToAfterschool(a
>Chargcoin(a
>$(aa
>Vibe(aa
<ValueFrom$s(aa
<erReceived(a
>eumReceived(a
>s(a
??(a
:xcess$s(aaaa
<hangeFee(a
9FLC(ba
<Core(ba
:adeoutToPool(i<uint256[9]>
:ee
<(a
>a
?a
=ba
>ffaa
=ffaa
<Dynamic(aa
<ForAccount(aab
:inal^(eeaaaa
;rstCut(a
:loatingValue(aaaaaa
:orValue(a
;underCut(a
9GoldBuy(aa
@Simple(a
=Sell(a
:rantClaim(b
<peBuy(aa
ASimple(a
>Sell(a
9Hash(aaafd
>bbaaa
>uai
:eld$Distribu~
:olderPiece(b
9IcoBonus(aaa
<$?(a
:d(aaia
;eaBuy(aa
@Simple(a
=Sell(a
:nterest(a
Caa
Bba
Bia
ADue
:ssueGoldFee(aaf
9KebabBuy(aa
ASimple(a
>Sell(a
:nowledgeBuy(aa
ESimple(a
BSell(a
9Landmark^(a
:evel(uD
9ManyHash(bghaa
;rketPixel^(Qa
Ja
;tchOutcomesForRoundId(m
>^_(<address[14]><uint256[14]><uint8[6]>jjjjjj
[18]><uint8[8]>jjjjjj
;xContribu~
H(b
HUsd
<EggG0(l
=thIssued
<$sIssued
:eat(a
:in^ForNextRound(aa
<edCoinsForTX(aa
<t?
:yReward(a
ADecreased(aa
AMax(b
9Next^(a
De
:o$(a
9Obtained(a
AJOY(a
ASBT(a
:p~s(<uint256[9]>iif
@Components(<uint256[9]>iif
:wnerCut(a
>Fee(a
9Payment(a
<out(a
Ak
Am
@da
@efa
?For!(b
?Variables
<rollBurnrate
@Runway
:ercentage(aa
:ie
:layerValue(b
:oints
?Block(i
;ohBuy(aa
@Simple(a
=Sell(a
<lCut(a
;unds@sEther(a
:reBonus(a
<$?(a
<vious^(a
;ice
>(a
@a
Aa
Bb
Ca
@k
?c4
>Increase(a
<zeCut(a
;oceeds(baa
<fit(a
<viderFee(a
:urchaseReturn(aaea
Jia
Jka
Ad$s(aa
9ROI
:andomNumberByBlockhash(ab
;te
=(a
:eferralBonus(aa
<und?(aa
?edEth(aa
DWithDiscount(a
;gionInitialSalePixel^(Qa
Ua
?SalePixel^(Qa
Na
;leased
;portingFee(ba
;sult(aa
Ba
;venueAtBlock(a
;ward
?(a
Aa
Be
@b
@ib
?At(a
?For!(b
IAt(ba
?ToWithdraw(ib
Akens(ae
?s
:inghash(apoo
9SaleReturn(aaea
Fia
Fka
:core(aa
?b
?p
:ecretHash(afd
;edBuy(aa
@Simple(a
=Sell(a
;llGoldFee(aa
;tupAllowedUntil(Qa
Ka
:hare(<Campaign>
>sInTheRevenue(aa
:tage^
<ke(uD
;ep(a
;oreBuy(aa
ASimple(a
>Sell(a
:ubmissionIndex(<>a
Iba
;mToWithdraw
9TakerFee(ba
;lly(ba
:heEnd^(a
:icket^
;erBonus
;meBonus(a
=out
:oken?(a
Fa
Fb
Fe
DICO(a
>Buy(aa
A^(a
ASimple(a
>Count(aa
?rowsale(aa
>OnlyBuy^(a
BSell^(a
>Presale(aa
@ice(a
Ea
>Sell(a
B^(a
>ToEth(aa
>s(a
Aa
Ba
@b
??(a
Gf
?EnabledOne(ba
FforAirdrop(ga
?From(aa
CWei(aa
?QtyByEther(a
?Received(a
?ToSend(aa
?WithBonus(a
CoutBonus(a
;p5HeroesPower(ba
;talDue(aa
>ExpenseWithdrawable?
>GamePrize
>$PerContribu~(a
>Withdrawable?(b
J$?(bb
:rade(aaa
<nsferFee(a
Ebba
:xFee(ab
9USDcValue(a
:nsold$s
9VestedOp~s(aaa
?$s(aaaaa
Ffaaaaaa
ENumber(aaaaa
E@(aaaaa
:ote(aaa
9WeiForStage(m
<Needed(ba
:in
<eBuy(aa
@Simple(a
=Sell(aa
ASimple(a
<nerPrize(aa
?s(i
@Count(a
=ingEntries
@s(aa
;thdrawable
E?
Bl?(a
:olkToBurn(a
9YourValue1(a
B2(a
BEven(a
9_base_mining_reward(a
:difficulty_attempt(aaa
:minimum_contribu~
:next_expected_wei(aaaa
:propor~al_reward(aaa
:range_attempt(aa
;eward(aba
:shares_and_return(aaaaaa
9dReward
:To
<kens(ba
9mortiesell(a
9subscribersell(a
8ion
;TeamsRewards(h
<otalSupply
8or(eaa
3l(b
6ja
4APIVersion
5ddress(b
4BackGas?
8Varia~s
5tcWithStc(aadaaaadde
=o(aadaaaadde
6oWithStc(aadaaaadde
=o(aadaaaadde
5urn$s(a
4&(bj
<Func~By!(bcbbaafcd
4Data
8(bj
5efaultAc~
;Release
6stina~
5istributed
6vidend(b
4ETH(b
5mitter(a
4FirstTarget
5or(baaj
:j
4OnExchange(as<address[5]>zdedd
6ce
5racle(ba
4SecondTarget
5oftCap
6meFunc~ViaInner1
H2
H3
COuter
5tages
6cWithBtc(aadaaaadde
=o(aadaaaadde
6oWithBtc(aadaaaadde
=o(aadaaaadde
5urplus
4ThisToStart
<op
5oken
4URL(cccc
4Value
5ote
4Withdraw
<(b
4_lucky(bb
4back
8(a
9b
:baaa
9dc
8CrossFork(lad
8Gas
8InsertApproveAndDistribute(agh
8@
8_ForPayout(dcj
<Underwriting(acj
4data(a
4ed
6Once(d
5rAdd(b
9ed(b
7lloca~EndBlock
@Period
@StartBlock
6Del(b
6$?AtBlock(a
6_
6s(a
8b
4gDistributed
5SoftCap
4sAssigned(d
5Exercised(d
5Owned(db
5Sold(db
4this
3m
2mpaign
8(a
8Canceled
:ptain(a
8Dura~Days
8Ended
=Successfully
8IDsDonatedToByUser(ba
:toDona~NumberToDona~(aa
8Open
8Stages(e
;te
8Url
8s(a
:d
9StartedByUser(ba
2nAcceptBuyNow(ab
9Payment
@(a
9$s(b
?_(b
4nyoneBurn
3BeBidden(a
5Canceled(a
6hanged(a
5Delisted(a
5Set(d
5Whitelisted(d
6ithdrawn
5arWith(aa
5t
6(a
4reed(t
:ata
8With(aa
=tt
4urn
7!
7WhiteList
5y
6(a
7b
6Company(d
6Existent$(a
6Limit
6$s
3CPCreateInFactory(bb
4all(bbs
5shBack
4hangeLocked
4laim
8(dabj
8PartnerBonus$sPhase1
O2
?$s
9resaleBonus$sPhase1
O2
?$s
8@out
9oken
=s
4ollect
:(a
5mpleteContribu~(b
5ntractExchange(b
8ibute(ba
6vert$s
4reateEdi~(ae
9Games
:rants(b
9Unit(a
3Defrost
:Advisors
:ReserveAndTeam
5posit(b
;db
5register(b
4isburseMultiple@s
6tributeReserved$s
4oLoop(aaa
5uble(b
9Down(<Game>
CLib.Game storage>
3EndVoting(a
5terPool
<(5ba
=6ba
=b
4xchange
;(b
;Num
5ecute(aa
5itPool
;(5b
<6b
<b
5port
3Finalize
;Early
6ishPVP
9Tournament
5rstMint
4reeze(b
3GiveMoneyBack
4otoState(e
4rantVested$s(bb
3Holder;
3IBuy
4Withdraw
4mplementInterfaceFor!(bd
4nitiateCodeUpgrade(b
5vest(ba
<a
4ssue
8Individual
3LayEgg(lii
4ist!(b
4otteryBeExecuted
:Free
3MakeNoFee;(bb
7UnrefusableOffer
4int
7Burn
4ove(kee
7token
3Of(b
3Pause
4latformFundingWithdraw(a
4urchase
;(a
<b
=a
=ba
3ReceiveMintWhiteList
Clist
6vEthDirect
5deemUTXO(dreaj
=Hash(dj
5fund
5gister(b
5lease
5nounce
5scue(b
6toreUnsold$s
5veal(b
6okeVesting(bb
3SaleInfo
4elfDestruct
6l(b
9ee
5ndWebGif?
=t
5tBanker
6;able
6tle(d
4pend(ba
4tart
8Auc~
8Sale2
9ettling(db
8Work
5opWork
4ubmit(db
4wap(ab
3Take(b
4eamKeepingWithdraw(a
5rminate
4okenUnlocked(a
4rade(F2j
9b
:b
6nsfer
;(b
=b
>a
>ba
;Before(b
=tweenUsers
;From(bb
;IfLocked(ba
;UST(f
3Update?ToTakeAsRake
9BackWindowAdjustmentRatio
9DeveloperMiningPower
9FrontWindowAdjustmentRatio
9NextGameInitalMinBetSize
AMinAndMaxBlockUntilGameEnd
APotSplit
9PercentToTakeAsSeed
5grade
4seLock
6rCancelArtwork(b
7ReleaseArtwork(b
3Vote(b
7OnProposal(bb
3WhiteList(b
4ithdraw
;(b
3_claim(bb
4refund
3ary
3cel
6(<Call>b
<Lib.Call storage>b
7F2
7a
8b
7babbabaaedd
8bbaaaedd
8d
8i
7c
8a
7d
7l
61(a
62(a
6Ac~(d
:veAuc~(t
CWhenPaused(t
<LoanAtIndex(a
7ddOwnerRequest
8op~Offer(D
>Request(D
7gon(l
:Force(l
7llBuyOrders(baa
9Enter
9Orders(a
?ByTradingPair(bba
9SellOrders(baa
7pprove(d
=Fee
>or!(a
All(a
7uc~
=(a
>ba
>i
>l
=ByMaster(a
=Emergency(a
=ToBuy(a
=WhenPaused(a
Hba
6Battle(a
7et
9(a
:ea
9ByOwner(a
;Player(a
9s(<Book><BookType>
7id
9(a
:bd
<Sf
:d<BookType>Sf
;aaaaedde
;eSf
7ooking(b
>chadf
8unty(a
7uy(aaaa
9Auc~(ab
9NowOffer(a
9Offer(i
:rder(Yaa
?aa
?ba
9$Order(l
7yAdmin(h
6Call(Odb
;Pdb
;d
8mpaign
>(a
?d
7enturionSale(a
7hampSale(a
8ibiForFusion(a
7odeUpdate
8llateral;(a
8mpeti~(a
8ntract
9version(a
8st
8unterStack(dd
7raftAuc~(ab
;ingAuc~(a
8eatorAuc~(t
8owdsale
6Deal(a
8livery(c
7igitalArtSellingItem(a
8st
6Enter(b
7scrow(a
=qbba
7thOffer
9erBroAuc~(a
7xchange(a
8pectedPayment(u
9lora~ByIndex(a
CShip(a
6Favor
7ee
7inishMintingRequest
7ounda~;
6Game(a
;b
;i
6Hybridiza~(a
6IndexedSale
ABy!(b
8tl(<TradeMessage>
7temSale(a
6JobByAdmin(daba
;Provider(d
6KimAuc~(a
6LeaseOffer(e
7ine(a
<c
8sting(D
>a
>d
7oanRequestAtIndexByBorrower(a
JLender(a
8ttery(i
6Match(a
<e
7igra~
?(b
Ab
8lestone(a
@l
8ntRequest
6NewOwnersCountRequest
6Offer(a
<k
;ForCity(a
;ingProposal(ba
7penBids(<Book>
?d
8~Order(FJf
Dyf
Ff
7rder(<address[4]>2
HLfeedd
E5]>Ra
Ifeedd
=uint8[2]><bytes32[4]>M<address[4]>
<FLfeedd
<Jdde
<a
=a
=iiac
<b
=<address[5]>zdedd
=a
>baaabedd
Bedd
Eb
<d
<fa
<n
;_(<address[7]><uint256[9]>eeeejjjedd
ILeeejjjedd
;s(h
7wnership
?Offer
?;
6Payment(a
>c
>la
=Globally(a
7ending(d
7latformWithdrawal
8edge(la
<Payment(a
7roject(l
9posal(d
>ByCreator(a
<eTo
6Redemp~Request(a
8fund(b
8moteWithdraw(aaaab
:veOwnerRequest
H2
8nt(aa
8quest(a
?a
>ic
8serva~(ba
<ed$s(ba
8wardsWithdrawal
6Sale
:(a
:By!(b
:OfMinting!
:WhenPaused(a
7cript(b
7ell
:(a
<aaa
:Block(aa
:Card(e
;ityForEther(k
:Offer(i
;rder(<SellOrder>
@Yaa
@aa
@b
Aa
:Pop(a
:ToBlackMarket(aaf
<Consumer(b
<kenOrder(l
:er(da
:ing$(b
7tack(d
7ubscrip~(a
Da
Cb
BOffer(a
7wap(a
6TeamWithdrawal
8mplateProposal(ba
7icket(a
7knOffer
7oken(a
;Sale(abf
Af
8urnament
7rade(a
<b
=abaa
9nsac~
A(a
Bdcddaaaaa
;fer(b
?d
>Right(b
8eeSell(a
7x
8(e
6Vote(a
;d
:ForCashBack
6WagerOfCard(b
8itingForOpponent
7ithdraw
>alRequest
7onderSale(a
6_contract
7face_proof_request
7lottery
6ed
6led
9(bd
:d
9OrFilled(d
=nalized(d
;ders(d
9RequestIds(a
6offer
6s(b
3didat
8e
9Directory(a
9ETHAssets
:xchange
9Informa~(a
9TillETHAssets
>xchange
=XPAAssets
9XPAAssets
9s
:(a
4y
5=
5Cap
5Land
9!
9Sale!
5Power$
6rice
5Sent?
5$
:!
7talSupply
5per
3mint
3notReceive(b
=Until(b
6Send(b
:Until(b
3onCount
5izedPLCR
:arameterizer
9Registry
3tBidUntil(b
4SetReferrer
?(b
3useOf(b
3vas(aa
2o
2p
3(a
4b
31(b
32(b
33(b
34(b
3Adjusted
4mount
3Commitment
3Day1
62
63
4efault
4oubling@stamp
3ETH
4th
3Fiat
7AndETH
5nalized
4lex
3Hics$
3ICO
4nWei
5creased
5itialized
3Levels(a
3OfTotalSupply
3Per!
4reICO
9Trasferred
6Sale
6sale
3Reached
5lease@stamp
5maining
4ound1
82
3@
4oken
8?
8s
3Usd
3WEI
4allet!
3_
4ACE
4in_wei
4max
4nuru
4tmx
3acity
3ital
7Allocated
@To(b
>ion
7Fundable
7Ledger
7Needed
7PctBips
7Raised
=Target
7iza~
3ped
6BuyerList(b
6IEOStart@
6SaleStart@
6$Supply
3s(a
5b
5d
3tainIndxToCount(i
7$IdToOwner(a
7s
8(a
4cha
3z(a
2rAccts(a
3Count
8Of(b
3IdRentStart@(a
5ToApproved(a
7Owner(a
7Renter(a
4ndexToApproved(a
:Owner(a
3OfByIndex(ba
3TaxiCrowdsale
@!
7$
<!
4ype(a
7Supply(a
7TotalSupply(a
3d!Exists(b
5ndChecklistIdsForOwner(b
5rray(a
4&
6st
4DamageUpgradeLevel(a
5escrip~(e
6tailsList(a
;Structs(e
5raw^
4Emojified(e
4Facevalue(e
4IdToFirstClaim@stamp(a
8Owner(a
8PerkText(a
8SaleInfo(a
9tashedPayout(a
5ndexToApproved(a
;Owner(a
4List(a
4OwnerOf(a
4Presale(k
;Counter(k
6ice
4ShieldUpgradeLevel(a
5tructs(e
5upply
4$!
9ToApproved(a
;Owner(a
4_black_first
;minamount
7ue_first
:minamount
5gold_first
:minamount
5metal_first
;minamount
5start_first
;minamount
5titanium_first
>minamount
4boardUnicorn$!
4s
5(a
5ForSale(a
5InEdi~(ea
5Minted
5OfOwner(b
5_black(a
;_check(b
<total
8ue(a
:_total
6gold(a
:_total
6metal(a
;_check(b
<total
6start(a
;_total
6titanium(a
>_total
3eer_path
3numOf(b
3ousalParam(a
8Ratio
3rot_credits(b
6sCaught
7Multiplier
3s(a
4Count
4Gifted
4Of(b
3t(ba
4axi$
2scades(a
3h(a
4AllOut
4Back(b
8FromProject(b
Eb
8Votes
8Weight(b
4History
4InRate
6vestment(ba
4Out
7(a
8ba
7Car(i
7Fallback?
7Profit
7Rate
7Ship(i
7Tank(a
<i
4Sale(ba
4|(b
4edOut(b
4ierAddr
7s(b
5la$Supply
5n
4out
7(a
8b
9a
7EOSBetStake$s(a
H_ALL
3ino
6=
6Deposit
6Games(a
6Withdraw(a
3t
4(a
4Vote(aa
;dcd
9b
2t
3Attributes(aa
3IndexTo!(a
:^Excep~(a
3Names(D
4oLongerForSale(a
3Owners(D
:a
3PaymentCollector
3ReleaseTo^(i
3alog
7Players!
3chMonster(aic
=baic
=ic
5Starters
5You(ba
;a
5_the_thief(b
3egoricalEvents(d
8e1(b
92(b
9s(a
:Count
7y
8Cap(a
9ount
3sForSale(a
4Register(a
6mainingToAssign
2uldrons(e
3se
1b!
9es
;(b
2rt(a
2tFundDeposit
1cEnd@
3xchangeRate
2LockedUp=s(b
2ReleaseBlock
2Start@
3upply
2UserCount
6s(a
1d
2(a
21(b
2Fee
2t$!
1eil(a
6a
4Log2(aa
4$s(a
4ing
7Strategy
7s(a
2lebIdToApprovedRecipient(a
9Owner(a
9^(a
9TraitBoosters(aa
>Values(aa
5Of(a
5rities(a
8yCount
5s(a
3lsOf(b
3tic_cross
2ns
4orChatMessage(a
6User(bf
6edChatMessages(a
6ship(aff
3tRaised
4$
4ralAuthority
7Bank
;!
;er
7Minter
7_account
4sExchangeRate
5InPhaseOne
5PerEth
;er
8Month
8$
5Raised
6eceived(b
5To$s(a
7Wei(a
4urionIndexToOwner(a
2o
3AddCoo(b
6ress
3Devfund
3Ether=
3RemoveCoo(b
3|
2rtAuthIssuesCerticate(bbacccca
4Issued
4bot
4ificate
;(dd
;s(d
7ed(b
9Accounts(b
9Partner
8r
9!
9s(b
6y(a
8b
9d
8d
7Account(bf
7Many(o
1f1|2Pct
22|2Pct
2i_whitelist(b
2o
3(b
3!
3Withdraw
;(a
1g
2(baaa
2o!
1hAirDropFadd(a
:share(a
9Limit(a
3llowAirdrop(f
7;(f
2Owner(bf
2_players(a
2ain
5Ledger
5StartBlock
?Number
:@
5s(a
5yShortLink(ac
4rmanOf(a
5person
3llenge
9(a
;<uint32[5]>aak
;a
:baa
:dc
9CanBeResolved(d
:learing(d
:ooldown@
9Exists(d
9Fee
<Multiplier
9Number
9Owner
9Period
9Registra~(d
;parameteriza~(d
;wardsPercent
9WinnerReward(a
9_period
9s(a
3mpToName(a
7Owner(a
5ion
5s(a
6ForSaleCount
3nceNo
6sBought
4gERC20(b
5Invite?Limit(a
5e(a
7b
8a
9b
:a
8baa
8m
7cc
9aaf
6APTController(b
7REF|(b
8I|(b
7cceptDice(f
<Exchange(f
9ount(b
=!ForSponsee(b
N!(b
=LevelsAddr(b
=Modifiers(b
8tualQueue(b
7ddr(b
:ess(bb
>cb
>db
=Set(b
8min(b
=b
><bytes32[3]><bytes32[3]><uint8[3]>
=f
;!(b
;Charges(aaa
<ontract(b
;Privilege(bf
;User(b
;|(b
;er(b
8ultDragonStage(e
8visor(b
7ffiliatePercentage(a
7gency(b
<Owner(b
<Receiver(b
:t(b
;Permission(be
7ir?(a
9Droper(b
9LimitCount(a
9dropLimit(a
=Qty(a
=TotalQty(a
=Value(a
7ll(b
9Cosigners(agJjjj
B2(agjjjj
9oca~(bm
Am
=or(b
:wInvestment(f
;;
CState
C|(b
;ance(ba
?ToMint(b
?s(gh
;edRecipients(bf
=TakerBetsPerMakerBet(aa
7mount
<(a
<PerEther(a
7nimator(b
7pi(b
9Url(c
8proval(baa
@f
<er(b
7rbitrator(b
7ssembly(a33
:t(dcce
;Owner(b
;sState(f
9ignedAdmin(bac
9ocia~(b
7uc~&(b
8therOwner(b
:orised&(b
=ty(b
Ab
=zedCaller(b
8xPartner(b
6BSTRequirement(ba
7ackend(b
8lance(ba
=sDB(b
8nk(a
;b
<b
:Account(b
:roll(b
8seMultiplier(a
:$^(a
:Value(a
Aaa
Ca
Daa
;erifierFee(a
8ttleFee(a
7eedingCost(a
8neficiary(ab
Bb
8t(a
9Limits(aa
9^(a
7id(dee
8nary(a
<!(b
8rthSettings(aee
8teCost(a
7locked@ForBounty$s(a
DInvested$s(a
;s(aa
7ntyController(b
7oard!(b
;Metadata(ddc
9t(b
8nus(a
=aa
?aa
>e
<e
=aa
;Distribu~!(b
;IncreasePercentage(a
;Percentage(a
;Rate(a
;System(hh
;$!(b
8okingFee(a
9lean
8t(b
8untyArbiter(ab
<Data(ac
=eadline(aa
<Fulfillment?(aa
<Pays$s(afb
<|(b
7ranch(ae
8idge(b
8oker(b
<Imp(b
7tcOracle(b
7urnBounds(aa
@Opera~
:Paused(a
@@(a
:er(b
8yFee(a
:lag(f
9^(a
9in(a
;g^(a
6CATDestina~!(b
7EO(b
7JTeam|(b
7ap(a
;aa
8rdAttr(a<uint16[5]><uint16[5]>k
:Cost(a
:^(a
:boardUnicorn$!(b
7ertBot(b
:ifier(b
7hampsName(ac
Cb
8eckDate(faa
7laim!(b
9ssFee(aa
8earance(aaaaf
8ient(b
<Category(ba
8ons(bef
9udsPerEth(a
8ub(b
7ofounderA(b
?B(b
8llateral?(a
@Seizer(b
@Taker(b
9orBlack
=ue
;Green
;Orange
;Pink
<urple
;Red
;Teal
;White
;Yellow
8mmission(a
@Fee(a
:onDiscount(a
<Rebate(a
9pany|(b
C!(b
:eti~!(b
8nfig(iae
9gress(b
9tainer(b
:ract!(b
>Fee(a
>Name(c
Dc
>Owner(b
Cship(b
>State(f
>Upgradability(f
>s(bbb
Cb
Db
;ol|(b
=ler
@(b
Bb
@InBnty$&(b
9versionRate(a
8olDown@(a
:downEnd@(tt
>Index(tk
8st(a
8untryLimit(aa
9rse(a
>a
7reator(b
==(a
9ditFundNIMFA!(b
8owdSale(b
?Dates(ea
;fund&(b
?State
;sale(b
@f
8ytibles!(b
7urrentCirculating(a
=EtherRateInCents(a
8stomDefrostingRate(be
6DB!(b
7NNHoldingMultisig(b
7X(b
7ailyLimit(a
8taBase!(b
9es(aa
7eDe!(b
:Network(b
:Storage!(b
8adline(a
9lDate(aa
8cimals(a
?e
8de!(b
9icatedProxy(b
8ed^(aa
8faultWithdraw(bb
=s(aaaaf
9endFee(a
8kz!(b
8legate(b
8murringFeeOwner(b
8posit(b
=!(b
=Cell(ba
=Stop@FromNow(a
=|!(b
=orLimit(a
=s!(b
8scrip~(bc
Bcc
9igner(b
9tina~(b
A!(b
8v(b
9!(b
9Fees(b
=Addr(b
9eloper(b
?CATDestina~!(b
?ETHDestina~!(b
?SENSDestina~!(b
@FTDestina~!(b
?Template?Limit(a
?_only_Dev(b
?sRecipient(b
:voperAccont(b
7ifficultyAnd^(aa
8scount(aaa
Ba
?e
9own(a
9tributor(b
8vCard!(b
9estFee(a
9iRate(a
:dend(a
=t&(b
:sor(a
7oggy(a
8main(<>aab
=aaab
8na~(b
>|(b
9or(b
8ublr(b
7ragonGen(aae
<sStats&(b
9wFee(a
:er(b
8opper(b
7ubi!(b
6EEM|(b
7RC20(b
7TH2$(a
9USD(a
8X!(b
7arnings(a
7lementName(ac
8igibleDonkeys(a
7mission&!(b
7nabled!Status(bf
8d(a
9Block(a
9Date(a
>i
9PreSale(a
;ivateSale(a
9@(a
>l
9time(a
7scapeCaller(b
<HatchCaller(b
9row(b
7th!(b
9DailyLimit(a
9^Feed(b
9Reward(a
9To$Ra~(e
9_to_usd(a
9erBonuses(aaaaaa
;&(b
=st(a
;DeltaDeposit(b
;^(a
;RatioForOwner(a
;TxLimit(a
;Vault(b
8s!(b
7xchange(a
?b
>Admin(b
>Rate(a
Da
>r(b
8ecutor(b
8piryLimit(a
8tended@(a
9raBets(a
6FMPcontract!(b
7act(c
:orySetupFee(a
>ubscrip~Fee(a
=UsageFee(a
8llbackAccount(b
8shionAttr(a<uint16[4]><uint16[4]>k
7ee
9(a
9Account(b
@2(b
:ddress(b
:mountThreshold(a
;t(e
9Collector(b
:ut(ee
9Make(a
:odifiers(b
9Owner(b
9Percentage(a
De
9Rate(a
:ebate(a
9Take(a
9|(b
9s(aaa
>a
;e
7iatFee&(b
8nishPreSale(a
<Sale(a
8xedCommissionFee(a
7loor(a
7oreignBridge(b
9k!(b
9wardTo(b
8unda~(b
@!(b
;er(b
=!(b
Ds(b
=MultiSig!(b
=|!(b
:tain&!(b
7ree(a
:AnimalsLimit(a
:BetValue(a
:UntilDate(a
:ZombiewCount(k
:zeTrading(f
?nsac~(c
;ingAgent(bf
8iend(bb
8ozen=(ba
<Status(bf
<@(a
7sTKAuthority(b
7uckyou
8nd(b
:!(b
:Collec~(b
:Owner(b
?|!(b
:|(b
@1(b
@2(b
:er(bb
:ingLimit(aa
:sKeeper(b
;|(b
6GBT!(b
7TO!(b
7ame(ba
:Parameters(aa
8sFee(a
9Limit(a
>OfSafeSend(a
9^(a
>Limit(a
9Required(a
7enRNGcontract!(b
9eralSaleEndDate(a
AStartDate(a
<~(tk
=or(b
:s(ta
7ift(a
7lobalAdmin(b
<Operator(b
7oal(a
8ldIssueBurnFee&(b
7rantsController(b
:ularity(a
8oupActiveStatus(df
;Info(aaaaaaaaa
9ve!(b
6HSShop^(aa
7ardCap(a
8sh(d
:toLowOrHigh(a
8tchEscapeCaller(b
7elper(b
>f
7old(baa
=eaf
:er(ab
<Count(a
<Percentage(a
:ingTax(a
@Interval(a
8use(b
;!(b
;CutPercentage(a
;_and_Owner_!es(bb
;edge(e
6ICO(b
9!(b
9Dates(aaa
?eaa
9StartBlock(a
>@(a
<te(ff
7LFManager(bd
7co!(b
9Cap(a
9DeadLine(a
:iscountLevels(aa
APercentages(eee
9EndBlock(a
9Finish(a
9Phase?s(h
9Rate(a
:oundEnding(a
9Stage$^(aa
<rtBlock(a
>@(a
<tus(e
9@Range(aa
7d(<>aa
9aaa
9c
8entityEth!(b
>NarcoRespect
7nSale(dda
8crease(gh
>Step(a
8dividualCapInWei(a
8fo(c
:Url(ac
8itialCost(a
=^(aa
8suranceFees(HHHHaHHa
COpera~
;er(b
=Opera~
8terval
>Update(a
8vestNum(a
<ors!(b
9iteRate(a
=eward(a
<dReward(a
7sOpenFlag(f
8PayableEnabled
FForAll
8sueManager(b
;r(b
>f
7temName(ac
6JohanNygrens!(b
8yso|(b
6KYC!(b
9Status(bf
7eeper(b
8y(bb
:c
9s(c<bytes1[]>
7itty(a
6LastFreeBlock(a
7eaderMessage(c
8dger(b
7ib!(b
8censeCost(aa
8mit(a
=a
;s(a
8nk(jb
8st(bf
7ock(baa
:CostPerHour(a
:Period(a
:@(a
;ransfer(f
:ed
<=Manually(ba
:ingPeriod(a
:upDura~(l
8ttery(b
7uck(i
6MPO(b
7ainEnd@(a
:Start@(a
:|(b
:tainer(b
;enance@(aa
8jorThreshold(Tbafj
8keFee(a
:rDAO(b
8llcoin$!(b
8nagement(b
<r(b
?b
=Quorum
9ipulator!(bf
9ufacturer|(b
8rketing!(b
?Recipient(b
9tial(a
8ster(b
8x(a
9Bet(<uint8[157]>
=a
<CoinDice(a
<DoubleDice(a
9Cap(a
<USD(a
:oefPartnerForEmission(a
>layerForEmission(a
;ntribu~(a
9Deposit(a
:ona~Limit(a
9Gasprice(a
9LockDura~(a
9Min(aa
:ultiplier(a
9Reward(a
9ValueBetForEmission(a
9Withdraw(a
9imumContribu~(a
IForPrivatePhase(a
MublicPhase(a
=HodlDura~(a
=InvestmentsAllowed(a
=Players(i
=ValueDuringGuaranteedPeriod(a
BWithoutProofOf!(a
7dtFounda~!(b
9Team!(b
7eatParameters(aa
8dia(b
8lonport!(b
8mber(bb
<Name(bc
<ship(bafc
8rchantAccount(b
8ssage(ac
>dcedd
>kc
7igrate(b
<ionInfoSetter(b
8lestone(eaa
Ca
8n(a
9AccEthers(a
:mount(a
9Bet(<uint8[157]>
=a
:idMultiplier(a
9Cap(a
<USD(a
:ontrib(a
@u~(a
9Dona~Limit(a
9Eth(a
9Invest(a
?ment(a
9MakerBetFund(a
9Nac(a
9Pay(a
9$(a
>Sale(a
:rade(a
9Withdraw(a
9imalWei(a
;um(a
=?(a
=Bet(a
@?(a
=Cap(a
>ommission(aa
?ntribu~(a
IForPrivatePhase(a
MublicPhase(a
=Dona~(a
=MakerProtocolFee(a
=Purchase?(a
=TakerProtocolFee(a
>imeBeforeUpdate(a
=Wei(a
:umBet(a
9ter(b
<s(bbb
:ing!(b
=State
8xEnable(f
7oderator(b
9uleBudget(eea
8nethaVault(b
9sterNickname(ac
9thlyWithdrawLimit(a
8od(c
7tcDailyLimit(a
7ultiSig(b
>!(b
>|(b
>nature|(b
;plier(a
;sig(b
>!(b
>|(b
>s(bb
8tagen2Face&(b
7y!(b
6Name(ac
;bc
;c
<a
<c
;d
:AndSymbol(cc
:Opera~
:Symbol(cc
:spaceOwner(cb
7eedFightToAdult(a
8wExchange(b
9RoundDelay(a
:ubesUntilPayout(a
7otSold$s(b
6ORACLIZE_GAS_LIMIT(a
7VCPerEther(a
8ISReserved$(a
7ffchainUploader!(b
7ld$Reward(b
7neBet(a
7pera~al(df
=ve(b
<or(b
8~al(tl
7racle(b
<Add(b
;izeConfig(d
>Gas(a
A^(a
Dze(a
>ProofType(A
8igDev(b
:in|IdForAthlete(ab
7verERC228(bbab
7wnedOwnershipto(b
:r
;(<$Lib.$Storage storage>b
<Tbbfj
<b
=b
<cb
<dddbcdd
<lb
;3(b
;Accept
<ddress(b
;Fee(a
;Info(aacccc
;OfMonethaUsersClaimStorage(b
;SharePerThousandForBuying(a
NMating(a
=ip(b
<igned(beddb
<tart(b
;Two(b
;Vault(b
;With$s(b
;s(b
<|(b
<hip(b
Ab
@caabb
@db
?to(b
7zreal(b
6POI(b
7arameter(ii
?s(aaa
Bea
Daa
Ahhhh
9ticipants(a
?~Limits(aa
:ner1(b
=2(b
=3(b
=CoinPercentage(a
8tentSale(ka
8use
;Tranfser(f
;d(f
8yRate(a
9ee(b
9ment&(b
=Destina~(b
=Flagger(b
=$(b
9out(a
7ercent(a
?e
9iod(aa
?a
<@(aa
<s(aaaaa
9mission(bbdf
Bf
9sonalMaxcap(a
?incap(a
8t(aaaa
7haseToICO
@week2
D3
=NormalLife
=PreICO2
7ig(b
8ranhaName(ac
8zza(a
7lat^(ia
:form(b
>Flag
>WithdrawAccount(b
9yerName(ac
<Team(aa
<sName(c
7oliticianName(ac
9yRegistera~Fee(a
8ol(4
;b
8rtal!(b
7reICODates(aa
:coRate(a
<Start@(a
9JackpotBidLimit(a
9Mine(b
9fererForTask(bab
9saleCap(a
=DiscountPercentage(e
=EndDate(a
=@Range(aa
:eller(b
:tige(b
8ice(a
=a
>aa
=l
<c
<f
<ha
<ka
;ChangeName(a
;Decrase@2Ac~(a
?easePercent(a
Fiod(a
;Factor(aaa
;Limits(aa
;PerUnicorn(a
;RandomFight2Death(a
;Sanity&(bbb
<electFight2Death(a
=tter(b
;USD(a
<pdateWaiting@(a
;s(<uint[3]>e
=Je
9maryApproved|(b
>rbitrator(b
9vateContribu~(a
8ofitContainer!(b
9posalDeposit(a
<er(b
9tocolFeeRecipient(b
7ublicalloca~(a
8rchaseCap(a
8zzle(eeeee
6Quota(a
6RATE(a
7aceOwnership(bb
8ndao(b
:omFight2Death&(b
<OrgAPIKey(c
9kingSize(a
8te(a
<a
=a
:Fee(a
:Loss(a
:Of$(a
:PreSale(a
:Sale(a
;etter(b
:USD(a
:Win(a
:s(ea
;$(ea
9io(aa
7ealUnicorn!(b
:Zipper(b
8ceiver(ab
?b
@b
9ipient(b
?!(b
9overy
>(bb
Ab
>FromRecovery(b
9vEthStatus(f
8dTeam!(b
9eemer(b
8fPercentage(a
9erral(b
<er(b
9resherFee(a
9und(eae
<$
8gisterBot(b
<ra~Status(ba
Jf
HForGoldWhiteList(bf
KSilverWhiteList(bf
Hes(gf
Lh
9ulator(b
?Status(e
8lease12m(b
>8m(b
=6m(b
=Account(bb
8mainingDecoRewardOwner(bc
8ntal(b
8poSettings(aee
9uta~(bS
8quiredAdmin(Tafj
>DevSignatures(a
>Major(Tafj
?inor(Tafj
>Signatures(a
=ment(a
8scueAccount(b
9erve(b
=BountyRecipient(b
=CATDestina~!(b
=IAMDestina~!(b
=TeamRecepient(b
Dipient(b
=|(b
9ource(d
9tar@(i
:ricted(b
@tStatus(bf
>ions
8viewer(b
8ward(a
<?(a
<Manager(b
=inting?(a
7ollUnder(a
8ot(b
;d
:Authority(b
8undDelay(a
;Manager(b
8yaltyPercent(baf
7ules(fffff
6SaddleShop^(aa
8le(f
:!(b
;gent(b
:Blocks(aaa
;onusRate(ae
:End(aa
=Block(a
:Hardcap(a
:Info(aaaea
:Manager(bb
:On(a
:Period(aa
:Settings(baaa
;tart(aa
?Block(a
=tus(f
:@s(aa
;okenLimit(aa
7cientistForElement(aa
7ecOwner(b
9ondary|(b
<sInBlock(a
8ed(i
8ized$s|(b
8lectFight2Death&(b
9lFee(a
:Genes^(aa
:POP^(aa
;riceForAthlete(aa
:er(b
:ing^(an
8nder(b
:ingBanPeriod(a
8rver(b
:iceAccount(b
>gent(b
=Percentage(a
8tRate!(b
9tings(aa
Aaa
Ca
Beaaee
@e
@leeee
?leeee
@le
Bek
>_only_Dev(aaaakaaaee
Kee
Jeea
7hare(ba
;able(ga
;dExpenseAlloca~(a
8op(b
7igner(b
7oftCap(a
8lidStamp&(b
8undcoins&(b
9rce(cca
7pender(b
8onsee!(b
7tage
;(a
<e
=aa
?a
;AndReleaseETH
;Two
9ker(b
<Opera~
:ing&(b
=Fees(HHHHaHHa
AOpera~
9rbit|(b
:t(a
;AndEndDate(aa
A@(aa
;Block(a
;Date(a
@c
;PreSale(a
=ice(a
;Sale(a
;@(a
@l
;ing^sLimits(aaa
;time(a
9te(ae
<be
<e
<f
;ment(c
:us(a<CampaignStatus>
>e
=c
=e
8ep^sLimits(aaa
8ock(b
9rage(b
8rategy!(b
7ubmission^(a
8per&(b
;visor(b
9ply(a
>f
7wapperAdd(b
8eepAccount(b
7ymbol(c
=d
<Name(c
8nthesizeAllowed(f
6TBrate(a
7akeFee(a
:out|(b
8rget(b
<!(b
<|(b
<s(aa
7eam!(b
:ETH!(b
:NIMFA!(b
;ame(ac
:PoolForFrozen$s(b
>Instant(b
:Size(e
:$s(b
:|(b
8chAccount!(b
7hreshold(a
7icket(b
<Mag(a
<Owner(b
<^(a
8erAdmin(b
:Controller(b
8me(a
<a
:AndMax(aa
:Bonuses(aaaaaa
:Invest(a
:Lock(a
:OneSession(a
:WithoutUpdate(a
:s(aaaa
<ee
;tamp(baa
9ing(aa
?aaaa
7oCoin(ba
8Stage(e
8ken(b
<cc
;!(b
Db
<pproves(a
;&(b
@oller
E(b
;ExchangeRate(a
;ForSale(a
;Informa~(cc
;Manager(b
<inter(b
;Name(c
Ac
;Offer(a
<wner
@(b
@ByAdmin(ab
@|!(b
;^(a
Ba
Ca
;Rate(a
<eward(b
;Sale!(b
<ender(b
=ttings(kaa
<ymbol(c
;|(b
;sLimit(a
<Owner
<PerEther(a
?USD(a
<|(b
8pWithdrawable(a
8talAirdrop(a
<mount
;Distributed(a
;Exchange(a
;Remaining(a
;Supply(a
8urnamentTaxAmt(e
7radableFciInSession(f
:e(b
;Fee(a
;Tracker(b
;rs(b
:ingEnabled(f
9nsac~Fee(a
;fer(f
>FeeOwner(b
>Lock(f
>Stats(f
@ep(e
BLock(f
>able
>sPaused(a
8easury(b
9eAttributes(acc
9shold(k
8ibeOwner
8ueUSDOpera~
9steeOwner
7saLink(c
7uneOp~(iiaffnfla
8rnLast(a
7xnTax(a
6URL(c
7nicorn(ab
=Ranch!(b
9queOwnership(cabb
9tUser=Limit(a
:sOneEthCanBuy(a
;UserCanBuyLimit(a
JEth(a
8lock@(aa
7pgradeAgent(b
=Master(b
7sed(bm
9rClass(ba
:Eth!(bb
:Group(ba
=wth!(b
:Key
=(b
=FromRecovery(b
:name(c
7tilityAccount(b
6Value(a
;Bonus(eaa
;Per$(a
;s1(fffffaaaaaaaaa
<2(aaaaaaaaaehhh
8nityURL(c
8riables(a
8ult(b
;|(b
7eredictum(b
9ifier(b
8sting!(bb
>gent(b
=Period(a
=Whitelister(b
7isitCosts(aaaaaa
;Lengths(aaaaaa
7oteRules(a
9ingRules(aaa
Dm
Bbaa
Ea
7uePayETHDestina~!(b
6WCT2Controller(b
7LM|(b
7ait@(a
>UntilWithdrawOr;(a
8llet(b
>e
=eb
<!(b
<ForETH(b
<Owner(b
A!(b
7ebsite(c
8iCostOf$(a
9Per$(a
8lcome(c
7hatSatoshiSays(cec
8itelist(b
@f
?Admin(b
?CornerstoneStatus(bf
Pes(gf
?PrivateStatus(bf
Les(gf
?Status(bf
Fgh
?ed!Cap?(ba
A&(b
@r(b
7inConfig(pp
8thRef(bbaab
:draw!(b
>State(e
>able(a
BNetfRe(a
BRound(a
?l(b
@Date(ba
7orkerPoolPolicy(aaaa
6ZS(ba
:baa
7ipper(b
7ombieCreator(b
6_a(b
8ctive(a
8ddress(ab
9min(b
<_commission(a
7b(b
8lock
8ounty_manager(b
7client_manager(b
8oef(a
7delay(a
9v(b
7fee(a
8lag(a
;_hash(d
7ico_finish(a
;start(a
8ndividual_cap(a
7max_amount(a
8in_amount(a
7name(c
7owned(b
;r(b
7p1(a
82(a
83(a
84(a
85(a
8re_ico_start(a
9ice(a
7rate(a
7sale_address(b
Ec
8pecific_addy(ba
8tart_block(a
:tus(c
8ymbol(c
7time_stamp(aa
A_status(aac
8okenReward(a
<_price(a
6able
:$(k
?Count
7dmin(b
6bank(b
7eginnerprotec~(a
6d(b
7eposito(b
7p1(b
6first24Percent(a
6gp(b
6hiddenOwner(b
6icoBackend(b
6jp1(b
82(b
6lp1(b
90(b
91(b
92(b
93(b
94(b
95(b
96(b
97(b
98(b
99(b
82(b
90(b
83(b
84(b
85(b
86(b
87(b
88(b
89(b
6minContrib?(a
9cap(a
9presale(a
;ivatesale(a
:ublicsale(a
7p(b
6owner(b
6presalebonus(a
8ivatebonus(a
7ublicbonus(a
6rType
6sLocked
7oldierreplenishrate(a
7p1(b
82(b
6tradestatus(f
6vote^(a
5ingEnabled
8Milestones
4nelManager!es
>By$(b
9xSize
7_api
8deposit_bugbounty_limit
7s(d
8Limit
8Sold
3r(A
4acters(ba
:CountOf(b
:Of(b
4ge
6(a
6Advertiser(baab
@s(ghgh
6Bonuses
6Fee
9Pool
6HoldingTax
6JNT(bba
6Off(b
7n(ba
7we(d
6$sForManagement
6backCoins(ab
5ingSwitches(b
4ities(a
6y
7!
8mtToCharity
C(b
7=
8eneficiary
7Count
8ut
:Of(a
7Dona~
7Factor
8ounda~Idx
8rac~
8unda~s(a
7Space$
9litPercent
7|!
4onsBoat
3se
3tMessages(a
2eapredeemvillage
3ck
5(a
6b
7b
8ba
6ddj
51(a
8a
52(aa
5Acc=
8ount(b
=c
<Schedule(b
7~IsAuthorisedAndReset
8ual^
6ddress(b
<;(bab
<Verified
7min
:(b
6gentSign(bbd
6llOwner(hb
8RewPaid
6mount(a
6ncestors(iblll
7dConfirm(bd
8DeclareWinner(i
6pprove(ba
6uthenticity(c
9oriza~(Obb
CPbb
Cbb
6vailable$s(b
Fb
5=
<(b
>a
>c
<At(ba
<Tier(b
<s(g
8s(bg
7n(b
6eating^(af
7nefit(b
7t
8Color(e
?bdd
;umn(e
@bdd
8Dozen(e
?bdd
8Lowhigh(e
Abdd
8Number(e
@bdd
8Parity(e
@bdd
8Result(e<BetTypes>
@bdd
8Value
8ting(ab
6lackAccount(b
7ockEmpty(aa
:Mature(aa
6onus(a
;b
6ranchInEpisode(aa
6urn$s
7y(a
5Candy(b
7p(a
8tain(bi
6ertificate(c
6hangeToReceive
8rger(a
7oice(e
6laimEntitlement
Eof|(b
:$By!(b
AIndex(a
7ose@r
6ode(c
7mmitPeriod(d
8panyNameAvailability(d
9letedCrowdsale
7ntract(d
=!(b
:ibutedETH(b
>ion(b
>or=(b
7oSeed(i
8ldown(bb
6ustomer(b
7toffsBatch(g<bytes20[]>h
5Data(d
8e
6eck(apd
:dpd
:pdd
7letable(b
7pth(a
;ba
6isabledStatus
7vidend(b
=s(b
6ocument(c
7ne
6ragon(a
;Status(ae
6upe(c
8licateMatchId(baa
5ERC20=(b
6arnings(b
6nd
6th=(b
8FundDeposit!
8Raised
6xchangeSupported(d
7ecu~Authoriza~(<Call>ba
QLib.Call storage>ba
Lba
7ist(b
:!(b
:s(r
;OwnedMedal(l
7pected$s(<>Ua
Dgha
8iredfunds
;s(d
:y
5FeeSchedule(b
6ile(d
9Namespace(cd
7nd(b
6orPayout
8Received$s
8ValidChallenge(ba
=ity(c
8mat(c
8ward(j
6reeze(b
7ozen(b
;Accounts(b
6undingStateFailed
9s
5GainsToReceive
7me?(a
9Continues(<Game>
HLib.Game storage>
9Over
=ByUser
9Result(<Game>
Ff
ELib.Game storage>
@b
9Side?(aa
:tart
<tus
9sReadyForSpinning
6lobal=
6oal
9Reached
@(a
9and^
6uess
5HGame(a
6ardCap(a
7sh
9(bc
6olderStep(b
5ICOStatus
6d(d
7entity(d
6f!IsWhiteListed(b
Elisted(b
8llALCDistributed
;RTDistributed
:IQTDistributed
7Called(Od
>Pd
>d
9ncelled(Od
APd
Ad
8ontractCreatedHere(b
8ustodiesServedBBD(g
FETH(g
7Eligable(b
8xploded
7FundingCompleteOrExpired
7LockCanBeRemoved(b
7NameValid(c
7RefundAvailable(d
7SignedBy(db
8uccess(Od
?Pd
?d
7WhiteListed(b
6mageInput(Qaahff
@aahff
6n
7(a
7fo(ab
7terest
:nal=
:val
7variant
>s
8estment(b
?Required(kf
;or=(b
6sAssetPartOwner(db
8ttached(a
7KYC(bb
7OnSale(a
8pen
7Winner(a
6tem(d
5JuryVoted(b
5KYC(b
6hFundDeposit!
6whDeployer!
5LargeContribu~sLock(ba
6iquida~Value(a
6ock(b
9ed=(ba
;$
7gin(b
7ttery(a
5Maintenance@
7tchBatch(b<uint256[16]>
7xAllowed(b
8CapReached
6emberLevel(b
6ilestoneStateInvestorVotedNoVotingEndedNo
7n=(b
8Contribu~
8MaxInvestment(a
8e(a
8ingActive
<ttempt(ab
8tSolu~(adda
6onthlyLimit
A(b
6ultOverflow(aa
6y=
8et(b
7Dona~
7SellerOffer(b
7$s
7Undistributed=(a
7VestingPeriod
7Withdraw(<DAO>
Eb
@b
Ab
5Name(c
6otConfirmed(Tda
6umCards(aeedd
8ber
;(b
;s(<uint8[3]>
5Open@r
8rator(b
6rder(b
;w
:Batch(<uint256[48]>
6utstandingQueries
6wner
:(b
<<uint32[11]>
;d
:Allowance(b
:FailedToSet@OnMeeting
:Share(b
5ParticipantStatus(b
9ner(b
7tternExistance(d
7use
7yments
=(a
8out
6endingWithdrawal
7riod
;ic
8mission(bbd
@eb
?s
8sonalRemaining(b
6layerExists(b
6ool=
9Done(a
9End(a
9sDone
:End
7s
6revOwner(d
7ice
:(a
;bbfaa
:Crowdsale(aa
8ze
:AlreadyReceived(baa
7oduct(d
<Genuine(bba
8fitLossSinceInvestorChange
8mo(c
8of(d
:OfWork(aaa
8posalCode(ab
Daj
8viderSupported(bb
6urchaseRecord(b
5RandomFromRandao(a
7te
8io(aa
6edemp~Window(aa
7fund(b
7gPeriod(d
8istra~Status(b
7lease(ba
<?(b
=t(b
7questSignature(jgaj
Gjaj
7sult
7ward
;(h
;s(h
6okBounty
8Sold
8Team
7le(bc
7se(d
7undsNumberToRun
5Sale
7vedEth=(b
6ecret
;(bcd
7ll(a
9erOffer(b
7rtificate(bb
8viceFee(b
7tCosigner!(b
6hares(b
6idePledge(a
7g(ddeddb
8n(b
9ed(dedd
:rsBy!(daaa
>Name(daaa
6oftCapOk
6tate
9us
;(a
<ba
>cb
<d
;ICAP(dacb
6ubAvailability(d
8^(d
5TankAuc~(a
7rgetReached
6emplateRequirements(ddfe
7rmina~
6ime
9(dda
9out(a
6ok=(b
8Dev
8Sold
8Total
8en
:=
AState(b
:Supported(b
7talPrizesWaiting
:Sold
6raining^(af
8nsfer(ba
?baa
=AndCallDelegated(bbajaaj
=Delegated(bbaaaj
=From(bba
AToICAP(bda
GWithReference(bdac
AWithReference(bbac
=MultipleDelegated(bghaaj
=ToICAP(da
CWithReference(dac
=WithReference(bac
7eeStructure(bb
9sWatered(h
5UniqueLocked$Receivers
7locked$sData
7sold
6ser
9(b
9By|
A(c
9$=(b
9WhiteList(b
9nameVerified(d
5ValidLevel(e
:ity(cbc
8ueSent(jra
6esting(aa
=b
<@stamp(b
<WithFrozen(b
6ictoryByScore(a
6ote
5WhenContributorCan;OrWithdraw(b
7itelist(b
@a
>ed(b
Baaedd
Adj
6in(ab
9h
8ner(b
<i
9ing(a
7thdraw!(bdb
>mount(baa
=Value(a
BFor!(ba
=al(bbeddedd
??
@vailable(<PresaleLib.Data storage>b
Ib
6rapper=
5_array_add(b
7uthoriza~(bb
6bet(abe
6darkdao
7eadline
6flag(d
6lock(b
:_period(b
6period(b
7rize
6redeemed(c
8ward
6withdrawdao
5address
5ed_in
:(b
6r
5ingDispute(bb
5outCart(c
5point
:=s(ba
;lock
:Level
:TotalSupply(a
6revowner(b
5sOn
3f=Of(b
4Owner
9Withdrawal
4^
3mistry
3stProducts(a
5s
6(a
2fCentsPerEth
;$
@WhileBonus
3Rate
3Scale
2gExchangeRate(a
2i
3bies(a
3ckenHunt
7Of(b
7ToAltar(a
9kenDelegator
3ld
5&ByIndex(aa
5Deposits(b
5Exists(ba
5$(ba
:ByIndex(aba
Bbaa
5ren(ba
3na
3p(a
4=Of(b
4Size
5peed
4s(a
2kAdmin(b
3Staff(b
3UserDetails(b
2nageSpecialFeeTake(abaa
2oices(a
3osePerk(e
6RandomNumber
6Winner(cc
=d
<Deadline
3wn(b
2ris
3onoBankPlatform
5us
2unk1IsAdded
52IsAdded
53IsAdded
54IsAdded
55IsAdded
56IsAdded
5Nr
5Size
5edWeiMultiple
5sAlreadyVested
1irculate$sForSale(a
8ingFame
;Supply
A_
;$s
AFromSale
;_supply
9on
;Cap
;Start@
2tadel!
7=
8uy(ab
7;(ba
3ies(a
6Countries(a
6Sold
4zens(a
8!es
A(a
9mounts
?(a
3yData(a
4IndexToApproved(a
;Owner(a
4PoolCutPercentage
8Total
6pula~(a
5rice
4;Resources(aaaa
1jTeam|
1k
1lacCooperateNeedLock?(a
3im
5(<Call>baa
;Lib.Call storage>baa
6a
7aaa
8j
7b
7edde
6b
7a
8aedd
8j
7b
7dcfadaj
8dedd
7j
6c
7ccdj
7dj
6d
7abeddo
8j
7ccbdde
6mmmm
51Ply(lllll
52Ply(llll
5A
6ccountOwnership(ccaa
7tingPlayerOutOf@(a
6ddress(ba
<es(ga
7min
:(c
6irdrop
6ll
8(a
8Investor$sByOwner(b
8$s
>ForInvestor(b
6mount
;Set
6ndConvert(gaa
?For(gaab
8;(b
8Withdraw
@(bbbaa
6pis(b
6uc~able$s(a
5B1
62
6alance
<(b
<ByOwner(b
7sicResources
6eer
9coins
7t(ee
6idReward(a
7tNautic$s
6oard(<uint256[81]>
7ndReward
8us
:(ba
;k
:Card
:$s
7unty
;(ac
<b
;$
6rokerFee
6uyerFunds(bbba
6y!(b
7Proof(booa
=ooa
7Team
5C1
62
6ancelled(kb
7rdboard(l
6hip(ac
6lusters
6ofoundit$s
D(b
7mpanyReserve
7nsola~PrizeLoot(ab
8tractOwnership
=$s(b
:oller
7reTeams$s(b
:okens(ba
7unt
5D
6ailyLoot(a
7oStakeSupply(b
7te
7y(a
9k
6eposit(a
7rivative$s
7vReward(b
6iamond(ll
7vidend
=(a
=All
=Percentage
=Share(a
=s
6ona~s(a
?vLex
@zex
5E
6DEX(b
6OSclassic
?For(b
6TH
6arnings(a
6nd@
7ergy
6th
8For(b
8IfFailed
8er
:(a
:s
;(a
6xist(c
5F
6ailedConsensus(b
6eeRebate(addde
8s
9(b
9ForRound(ba
6or(b
:b
7unda~$
:ers
6reeAnimalFromAnimalFactory(cc
9Crab
9Dragon
9FirstCard(b
9ReferralPack
7omPool
9Several(ag
6unds
:(b
7tureUse
5G
6ame(a
9Reward(baa
7na$s
6old(llll
7oDepositDividends(baa
6rant(d
5H1
62
6alvingsSubsidies(a
7sh(d
6eirOwnership
7ld=
7ro
6odlReward
?For(b
?sFor(g
5I
6FSReward(b
6NRDividends
6d(da
6fNeededThenSteal(aabeddaa
6mmediate$s(b
6nitialAllotment(cc
5J
5Keys(a
5Left$s
6ocked$s(b
7ot(ab
5Many$For(g
7x?
6edals(k
7thodABI
6igrate
7ningReward
6obsterFunds
6ultiple(ba
=AndWithdraw=(ohogho
6yApis
7$
<s
5Nihilum
6xc
5OCDividend
6ne(b
6racle
7eOnlyFromAssetId(a
6ther$s(b
6wner(b
:Eth(a
:Fee(b
:Supply
:sEarnings
;hip
>1
>2
5Partner$s
7yment(aaj
<$s(ba
6heonix(b
6latinum(l
8yerProfit
;Winnings
7ot(a
;a
9Multiple(h
Ca
AWithData(hacccc
Kcccc
9WithData(aacccc
Ccccc
6oints
6remium(ba
8paid(aaaca
8sale$s
7ice
8vate$s(gh
8ze
:(a
;bk
:s
;(aaaa
7oductOwnership(d
8fit
;(a
;Equivalent
8xy
5Queen(e
5RaisedWei(bb
7te
6eadership(ac
7ceivables(g
7ferBenefit(cb
:ralBonus
8und
;(b
;Ether(b
;For(b
;OnUnsuccessfulEvent
<wed(a
;$s(bb
;VaultOwnership
;sFor(g
7gistryAddr
7pository
7searchDividends(baa
9rved$s
C(ba
Dcbac
7veral$s(ba
7ward
;(a
=a
=b
<b
;K(a
;Manually(b
;TillRound(l
;s
<(Nb
=hh
6oundReward(kb
5SMR
8forAll(a
6ale
9sAgent
6egments
7llerFunds(bbba
6hare
:(a
;bb
:s(aa
;InUpdate(b
6igner!
7lver(llllll
7te$(ea
6ocialNetworkIdentity(aabedd
6pecialResource(a
6take
8tus
7upidFluffyPink(l
6ubscrip~Deposit(a
7perDragonEggs
5Tax
8ex(aa
6eamReserve
9$
>s
?(b
Aa
6hrone(c
6ile(aaa
9sForExistingUser(Naf
=NewUser(djddNb
7me
9out
6oken
:(b
<b
=a
;dcb
:!(b
:For(b
;unds(b
:Ownership
C(b
:Reserve
ADevelop
AEcon
AFinan
ALife
:$s(b
:WindowOpen
:s
;(a
=b
<b
=a
=b
<g
=b
=h
;4mBTC(ba
;AndRefund
;BC(e
<yAdmin(b
=User
;E(e
;For(b
?g
>User(b
<romErc677(bb
?SeveralAuc~sAsBuyer(gghb
PSeller(gghb
?$District0xNetwork$(b
;ICO(b
<nBulk(gh
;ToOwner(b
6radingProceeds(bb
7eshold
6witterBonus
<Id(abedd
>IfNeededThenStealCardWithTwitterId(abedda
5Unrelated$s(bb
9nted
7sold
;Coins
;$s
6ser$(b
5Vested$s
9ing
6otingProposal
;Right
5Wei(a
6hitelistPack(f
6inner
9ings
=(dogho
7thResolver(bb
9Signature(j
6ork(ayd
6rapped&Admin
5XmasGift(b
5Zeronium(llllll
5_PreICO$s(b
6block
7ounty
6eth_by_address
6ico
6partnerPreICO$s(b
7eriod
7rice_money
6reward
<(ad
6time_victory(a
6victory(aeee
6winnings(b
5able
9(b
;f
9?(b
9Dividend
9FeesOf(ba
9Halvings
AOf(b
9OCDividend(b
:wnerEth(a
9Refund
?(b
;wards(d
9$
>s
?(b
9s(bb
6nts(a
5dram
5ed
7(ab
8b
9a
9k
8d
7Airdrop(b
>$s
D(b
8lready(b
8mounts(bbab
8nts(b
8t(a
7Boards(a
9unty$s(b
8y(a
7Cells(b
8oins(b
7Drugs(b
7Eggs(b
7FeeRebate(d
:s(ab
8lag
8unds
7Golds(b
7Ideas(b
7Kebabs(b
8nowledge(b
7List(a
7MK(b
7Of(b
7PartnerPreICO(b
8er$Payouts(b
8oohs(b
8reICO(b
:paidUnits
7Seeds(b
8tores(b
8upply
7@(b
8oday
9kens
=(b
?a
=|
7Units
8sers
7Yesterday
7_blocks
7by!(ba
7morties(b
7subscribers(b
6r
7Deposit
7Key
7OfSocialIdentity(aa
9TwitterId(a
7Unset
7s(a
5fordividend
5ingFee
5refund(b
5s(a
7b
8a
7d
6Created
3ssName(e
5Of(a
5Variants(a
5ic
7;(b
3wback
2c
2ean
5=
5Ocean(aaaaaaaaaa
6ut
5$s?(ba
5Up
7(b
5|s
5up
7AbandonedGame(b
7Delay
7To(b
4r
5(aa
6baa
5Account(b
6dmins
6ll
6pproval(Qba
=And;(Qbba
=ForGeneLab(a
5=(b
6lackAccount(b
6onuses
6udget(b
5Config
6rowdsaleClose@r
>Open@r
5DelegateAndUnlock$s
5ExpiredFreezing(b
5ICOby!(b
6nventory(a
5JackpotParticipants
HAfterDistribu~
6oinedCrowdsales
5Keys(a
6yc(g
5LC
6and(BB
5Milestones
6onsterReturn=(l
5NextArena@
9Prize@
5Pending
7riods
6oolsDone
6roposal(b
=Locked(b
5QuickBuyPath
5Reward(b
5SaleSharesSold(a
6met
6tages
8rt@
7orage(h
6ummonNum
5Tickets
6okenApproval(baf
5ValueBonuses
6olumeDiscounts
5WaitPairBets
7lletPending
6izzType(y
5ZoDailyLimit
5ances
:(b
5edKyc(b
5ing
2ick
5Button
3ent
6Init
6Seed
6Version
6Withdraw(a
>All
6_wallet
6manager
=Share
6s(a
7List(a
3ff
5Advisors$s
5Dura~
5Percent
8iod
5ReleasePercentage
5Team$sRelease
6ime
5s(b
2n
3!
2ock
5Auc~Storage
5airdrop
5maker
6int
5pos
3neAccount(a
5Card(ba
6ontractor(ba
5Order(baaa
5Proposal(acdaaaa
Df
5$s(aa
5WithPopAndBottle(aa
9TwoPops(aa
5dFrom
5s_to_create_one_idea
3se
5(<ChannelLibrary.Data storage>baaj
7NettingChannelLibrary.Data storage>laddj
6a
7aj
6b
7ba
6d
7d
6f
6laddj
5Active(a
6fterWhitelisted(b
6llSales
6nd;$Ownership
7nualInvest
6rea(a
6skOrder
7signmentsIfOpen
6t
6uc~
5Ballot
7ttleboard(k
6et
8(a
8a
6id(ba
8Order
6lacklistSwitch
7ock
6ooks
6uy
8(f
5Campaign
6laims
6ontest(c
9ract
:ibu~s
6rowd
:Sale
:fund
:sale
>(b
?f
6urrentStage
6ycle(a
5DailyInvest
6eed(a
7posit
<(a
=ba
<SubRound
6istribu~
A(f
5Early(a
:Adopters
:Purchase
6scrow(a
6thPool(a
5Fail
6unding
<(a
5Game
9(<Game>
:a
;e
:de
7teway
6eneralSale
6roup(i
5House
5ICO
6co
8One
6nvest(a
6t
5KYC
5Leaderboard(k
6ong
7tteryAndPickWinner
5MainSaleICO
7nualyMining
7rketOrder(a
6icro|(a
7nt
9(<$Lib.$Storage storage>
9ing
6onthlyInvest
7~(a
5Op~(FJ
>yf
@f
6rder(ab
6utSweeps
5Period(aaa
6ool
7si~(a
6reICO
;Private
<ublic
8sale
7oposal(a
5Refund
;s
7quest
<ed
6oom(a
7und
:(de
5Sale
9(b
:f
91
92
93
9Anyway
6ell
7ssion(a
7tup
6hop
6tage
:(a
:One
:Two
6ubmission
7ccess
5TheoreticalClosedAuc~(bba
6ierAddi~
7me
9out
9r
:Elapsed
6okenSale
>(b
6ransfer
6urnByHand(a
@i
5Up
6ser(b
5Vault
:Access
6oring
5Wall
6eeklyInvest
6indow(e
6ormhole
5ZoneShop(I
9Teller(I
5_bank
6pre_ico
6time
5d
6At
6Hour(e
6Round
6Sale|
6_
6own
4ing!
7Block
7DateFunding
8eadline
8ura~
7^s(bba
7@
;Array(a
;ExtensionPeriod
;ForCloning
;PeriodOne
ATwo
7_requests(d
3udsPerEth
4t
3wnIndexToApproved(a
<Owner(a
2ub
1mo!
2pn(aa
1nd
2tMembers
3UserAttacks(b
3_per_Keos
8eos
4registra~s
3ry_flgs(ka
2yBtcRate
3EthRate
1oAdmin
2Owner
2achAllnums(a
5TakeOff(a
5es(a
3uthor
2beneficiary
3inhoodUserIDs(b
3rarImpuesto(a
2de
4(a
4At(b
4ExportCost
:Enabled
4Size
4To!(c
4UpdateState
4name
4pointsOf(a
4tokenIndexToApproved(a
@Owner(a
4xCoin
5Stake&
2ef
4f
2founderA
:pproveSwitchRequest(bd
9B
9Indices(b
9Switch!(b
9VUPDestina~
9s(a
:Supply
@Distributed
@Remaining
@VestingStartDate
GTranches
OIssued
2in
4!
5ge
7(b
7For!(b
AAt(ba
7RecordFor!(ba
5lloca~
8wance(bb
=Of(bb
4=(b
=e
;Of
=(b
?e
5urnIco
8Mkt
4&
6ordinates(a
4Drain
4Index(bd
:d
5ssuedAdvisor
:Burn
:Etc
:Founda~
:GemmyMusic
:Ico
:Mkt
:Private
:RewardPool
:Sale
:Total
4LockRemove(b
9moveMultiple(g
8ed(b
4Master
5inted
9r(aa
5ultiplayer
4Owner
4PerEth
7centage
5ool
5rice
9InWei
4SaleStarted
5entToEther
5orting(a
5torage
5upply
4ToBurn
5radeStart
4Value
4age&
4base
8Init
8|
4dropsLockEndingAt
9Status
9$s
9|
4er
4fabrik!
4karma(a
4price
4s(b
5Added(b
8resses(a
5Count
5Flipped
5Issued
;Cmp
;Ico
;Mkt
;Total
5LeftInTier
5PerEth
5Remaining
5ToSell
5Unit(a
5aleDeadline
8active
4units
2ldAdmin
4StorageYears
8e(a
9Last
4|
:1
:2
3laborators(abb
5pseOp~Pair(babaaa
5teral(b
:?
:$
:isa~(b
ARatio
;za~s(ba
4ect
7(a
8b
9badde
8d
8g
9h
8h
8l
7Addr
8irDrop$Back(a
8llFees
:Return=(b
8mount(a
8ndUpdate(g
9ts(b
8uthorizedPayment(a
7Back
9lance
8ounty(baa
7DevFees
8ividend
?s(b
8ona~s
8rugs(b
7ERC20(ba
8arnings
8ntryFee
8stima~(m
8th
:er(a
<Back
8xcess
7Fee
:(b
;g
:s
;(a
<n
;InEther(a
8unds
7LocalBounty(ka
7Message(bba
8ilestonePayment(a
8yReturn
7Other$s(b
8wedDividends
9nRew
7Payment(a
?ba
8ercentOfFees(a
8rovisions(a
7Rate(b
8ev
7StakingBonus$s
7$
<PhaseStart@
<s
=(g
?h
7Winnings
?(aaa
7_fee(c
8main_fee
7able$=
@Of(b
7ed
9(b
9!es(a
BCount
9Bcy
9Cent
9ETH
:th
<er
>From(b
>s
9Fee
<s
=(a
=InTwei
:unds
9NDAO
9OreAssetMapping(ie
<=Mapping(be
9Signatures(b
:um
9$s
9USD
<WEI
9Wei
9_crowd_vitas
@wei
:eth
7ibleIndexToApproved(a
BOwner(a
B^(a
8onCountsOf(b
:Funds
:Of(b
7or
9!
9WeiCap
=ollected
9s(a
:Count
7taxes(a
3onies(a
5yMultiSig
4rIndexToApproved(a
<Owner(a
5Leaderboard
5PerCanvas(a
9oordinate(aa
6rice
5_B(b
6G(b
6R(b
5s(a
7e
4ured(bb
2mB_
3_fee_transac~(bbbaa
3bineInterest(ee
7MyGirls(aa
7dGoalReached
4oHub(a
3firmIsses(a
7Redeem(a
3isionGetter
5sion
9List
3mBallot^Wei
4FoundAddr
4Rate
8(a
4_channel
4and
7!
7GetBonus
?@
7MintBonus(b
7Percent
7TookAway
4ent
7(add
7s(a
9b
:a
8Accounts(a
8Length
4inglerSellsProductSKUWithProRataIngred(bacacc
5ssion
:1
:2
:!
;rt(aa
:=
:Fee
:Getter
:Per
=cent
AForCreator
;oints
:Rate
:Sum
:ToWithdraw
:|
:_rate
>io
;system
5t
6(a
8d
7b
7d
7j
6Block(d
=b
6Dispute(a
6Euro
6PeriodActive(a
7roposal(c
?dc
6Reading(b
?aac
8ceipt(db
6Scores(hh
6Threshold
7o(d
8Week(aa
6Upgrade
6Vote(ad
=aa
:s(hohh
6_end_time
6ment
:(b
:Of(b
:s(ba
=b
<d
;Of(bb
6s(b
6tedEther
8e
9JoinVoters(bb
As(b
9KickVoters(bb
As(b
9sArray(a
?IndexCounter
:Map(b
:Number
4on(a
6BudgetAdress
6Discount
6Rebate
6Withdraw(a
4unity
9Addr
=_
=ess
:llocating
Aon
:mount
9Cliff
:ontract
>ibu~Percentage
EQuota
ESupply
EWithdraw(a
9DevelopmentSupply
D|
9Fund
9Grants?
9Holder
9Lock
9Multisig
9Period?
?Length
?sNumber
:ool!
;t_
9SaleAllowed(b
=Cap(a
=Whitelist(a
:upply
9$Holder
>s
?2
?!
?Cap
?Holder
;tal
9Unvested
9Vesting4Years
9|
9usersCap
3p|
4actFrac~(aaa
5nies(a
:b
:d
9Index(d
9Manager
7ons(b
:List(a
>Count
6y
7Addr
;ess
8lloca~
7Capital
8laimed
8ount
8urrentPeriod
7Holding2y
7IndexToOwners(ab
7Name
7Percent
:iodsElapsed
7RemainingAlloca~
9serve
>s
7Share
<s
8upply
7@Lock
;lock
8oken|
<s
=Current
=Initial
7Vault
7|
=!
5re(CC
8b
8cc
7AndApprove(baa
7Byte(cc
7Hands(ee
7ItemSlots(aa
7Strings(cc
6isonchr(c
5tible20
;23
=ex
4ensate(b
:Contributors(aa
:LatestMonarch(a
:PreSaleInvestors(g
:d?
9ion!
=mount
5ti~(a
;!
;Infos(a
;Status
4lained(bb
8t(b
5ete
8(aa
:c
8At
:tack(d
8Booking(a
:unty!es(g
>Distribu~
8Closed
9odeUpdate
:ntract(f
=ibu~(b
9rowdSale
=sale
8Day
8Failed
:vor
8Game(aacb
8ICO
9coPart1
?2
8Job(d
8Migra~(ba
:nting
8OrderBySafePeriod
9wnership;
8Post(bb
8RegionAuc~(k
:leaseAuc~(a
:maining$s
8Sale
<(a
>a
9tatus(c
9upply
8Trade(b
;nsac~
8Unlock@
8d
9At
9Games
9Races(a
:equestIds(a
9TaskIds(a
=s(a
>Count
:ransfers
6xityForBtc!Prefix(j
MWithLength(ja
5iance!
:&
:|
4onentCount
9s(a
;k
5se(ha
7Jingle(b<uint32[5]><uint32[5]>cc<uint8[20]>
?MMcc
>c<uint32[5]><uint8[20]>
?M
6ite(aae
9Reputa~(c
8ions(d
5undInterest(b
8ingFreq
4ressBoard(<uint256[81]>
4troller
4ute
7!Bonus(k
8irdrop(b
8mountBonus(a
8ndGetRinghashInfo(abpoo
7Bids(a
8lock^(aaa
8onus(a
=k
<es(a
7CallKey(bbsdaea
9p(aa
8ertHash(bd
8ooldownSeconds(kk
?@(na
8ut(a
7GainsRate(b
8roupPhasePoints(ee
7IndexId(bd
9itial^(a
De
7KnockoutPoints(eeeeeef
7Leaf(<>a
7Merkle(dao
7NameFuzzyHash(c
DET(c
8extGen0^
;SystemSale^
8odeId(dd
7Payout(aa
8rice(aa
9opertyHash(cc
7RealCap(aa
9sult(ii
=VoteExtraInvestFeesRate
9turn(a
7S(<>a
8eed(lb
9ll^
8ha3(<><uint[8]>
8laves(bb
7@Bonus
@(a
8okenWithBonus(a
<s(a
?a
=WithBonus(a
9talEth?
7d_fundraise
9shares_sold
3unityMinted$s
2ncat(CC
7cc
4lude
8Crowdsale
8FirstAuc~
8Presale
8Tournament(bbbb
8UFT
8dGameIndex
=s(a
3di~alTransi~s
9s(b
3fig
6(aaaa
7b
6Adapter(bb
7uth(b
6&(aghhhh
6MaxKeys
6Of(l
6Params
7erFund
9Shares
6RoundKey
>Add
7un@
6Sale(aaaa
7tring
6@Inc
<it
:Max
6ura~Crowdsale(baabhaae
Oa
8e(a
;aaaa
>eb
;eaaaa
:b
;baedd
<b
:ddaaab
9District(aR<uint256[24]><bool[24]>
:omain(caa
?For(caabb
9FromStorage
9MarketItem(aeeec
:igrate(fb
;nter(ba
9Sale(aababbbb
=ClockAuc~(ba
9$Dividend(bfbj
>Params(cca
9Vesting(aa
9|(b
9d
9r
5rm
7(a
8b
8d
8j
72stage
7Ac~(a
8ddress(b
>Change(bb
9min
8llBuys
:Sells
8ndCheck(d
:ExecuteWithdrawal
7Batch(g
8eneficiary
B(a
8lackFlag(af
8oardScore(dd
8urning(a
7Cabal(b
8hangeOwnership
8rowdsaleEnd
8ustomer(a
7Dividend(a
?s
@FromPot
7ERC20(d
8TH(d
8rc20Transac~Request
8thTransac~Request
8xchange(ba
7ICOSpec
7KYC(b
8ittyAc~s(az
7Lawfulness(fd
7Manager
8inting(a
8ultipleTransac~s(aa
7NewNotary(b
:Owner(b
8ode(a
7OneBuy
:Sell
8racle(ba
9der
8wner
<ship
7Payment(a
?la
8latformWithdrawal
9edge(ac
8roposal(<ProposalLibrary.Entity storage>bda
@b
Ada
@ca
@dba
?And;Funds(kk
8urchase
7Received
?At(a
9quest(a
9served$s(ba
9turn$(dcddaaaaa
9verse(c
9wardsWithdrawal
7SetIssuer
:tingsChange(a
7TeamWithdrawal
8ime
8oken;ToBooking(dcddaaaaaaaa
9tal$Threshold
8ransac~(a
Cba
Ea
Cd
BAfterDisputeFee(a
GExpiry(a
MFee(a
BByMediator(a
LFee(a
BFee(a
BWithSignatures(dpo
8x(Td
7Upgrade
7VestingSchedule(aaaa
Ka
7Winner
7_token_deposit
7a~Count(d
<Nodes(b
<Period
BOver
<@s(a
<s
=(a
?b
>db"

end Listing
end EvmFlow
