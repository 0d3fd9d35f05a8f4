/-!
# Known signatures, part F
-/

namespace EvmFlow
namespace Listing

/-- Known signatures from `confirmed` to `ecosystemAddr`. -/
def partF : String :=
"0confirmed
9(a
:b
9?
9By
;(ab
9Map(b
9@sByOwners
:otal$(da
8r
7reward
5scate(b
:=(b
4lictEndFine
8Res
3gratula~FromNoel
>sText
5ess
8(b
8MemberThreshold
3jureAirdrop
3nectCrowdsale&(b
7Test
8oken(b
7or$Count
>s(a
9s(b
3secutiveDeaths
4ola~RewardsClaimPercent
BPercent
BRequiredFaith
5rtiumPlaceholder
4t_contract_eth_value
5ant
8name
5rctor
7utor
6uctLeaf(aba
9Owned
9ionEnd
<Start
<@
9or
;(bbb
<ga
5uctor
4ul
6_nme
7price
6tantsAlloca~
;Key
5me(a
8ba
7CoinForNova(ba
7MarketOrderAsk(abb
7Opera~(da
7Wine(a
7d
7r!
8s(b
6p~Pointer
3tBuy(ba
4PerRound(be
4Refer50x50
4;(ba
4act
7(b
7Informa~
7s!es(a
5ins
8(<!List.Data storage>b
ASetLib.!Set storage>b
AUintMap>b
:DLL.Data storage>a
;ata>b
:IterableMapping.itmap storage>b
:SetLibrary.Set storage>a
Qb
Qd
=s.addressSet storage>b
?byteSet storage>A
Cs32Set storage>d
?int8Set storage>0
BSet storage>m
?uint8Set storage>e
CSet storage>a
;ortedDoublyLL.Data storage>b
9CC
9a
:b
9b
9d
8Admin(b
8Number(a
8Operator(b
8Sender
4ent
7(c
9a
:abaa
:baaa
:cca
9ba
9cca
8d
7Count
7URI(a
7_intro
5stChampion(a
7End@
7Over
;@
7Start@
7ant(a
:s(a
7s(b
4inueCrowdsale
8Distribu~(a
8Genera~
8ITO
9co
8Order(na
8Sale
7ousSale
4length
4ract2!
8Active
9ddress
?es(b
:mins(b
8=
?(a
?Of(b
9lock
9oost(a
9urn(ba
8Count
9reatedCount
?@stamp
=ionBlockNumber
E@
8DecimalsUpdate(af
:ployed@
9ura~InDays
8Enable
>d
:d@
9rc20$
9th
9vents(a
9xchangeRate(b
:ecuted
:ists(b
:pira~@
8Failed
9ee
;Min?
;Percentage
9inalized
;ished
9orHash(d
8Hash
9older
>!
8ICO
9ds(a
9ndex
=(a
>d
:fo
:itializa~@
Aed
8Launched
9ock
<ed
8Max
9essage
9int(bcdda
9odifier!
8Name
<ForIndex(a
<Update(cf
<s(a
8Origin(b
9wner
8PartOne(a
<Three(a
=wo(a
:used
:ys
9oweredUp
9reICO
:ice
8RefundFinished
>Started
:served=
8SendGas
9olidStamp
9pend(ba
9tage
;ke$
;rt
=Date_
=@
=ed
;te
9ymbolUpdate(cf
8Template!es(a
9imeout
9oken=(b
=Reward
=Withdraw(ab
EToFree$s(ba
:talInvested
9ransfer(bba
8Up
:gradable
9sers(b
8Value
9ersion
8|
9ithdraw
@(a
8_addr(a
=ess
@(a
;min
:live_until_this_block
9date
9enabled
:th_value
B_bonus
Cfee
9finish
9md5
9newOwner
:um
9owner
9period
9sha256
:tart
<te
9terminated
9users(b
9verified
<sion
8backlist
:lance
8eventcount
8orCancel(qbbaa
:Manager
:Proposal(abacdbaaa
:ReleaseFunds(qbbaa
:s
;(a
;Profit!
8s
9(a
:b
;a
:d
9Addr(a
:pprovedList(b
9GrantedAccess(b
9tarttime
8uallyOf(b
5ibute
:(a
<a
=edd
;b
<a
=aj
=edd
<baa
<ddedd
;f
;hfa
:AndVest
:BTC(ba
=s
;yBitcoin(aaba
:Delegated(ba
:ETH
=(b
:For(b
=DcorpMember(b
=Makers(b
:InIco
:MethodABI
;sgValue(h
:Public
:To(ba
<Campaign(a
<PrizePool(ccc
=urse(a
<$Group(a
:With!(b
>$(abaaabbedd
>outVesting
:_toTheGame
:d(b
;1(b
;2(b
;3(b
;4(b
;?Of(b
;Cap(b
;Eth
;ToSTO(b
=ken(b
=tal
;Usd
;Value(b
;Wei(b
9ion
<(b
<Accepted
=mount(b
Bs(b
<By(b
>!(b
<Cap
?(b
?InWei
?s(a
=ount
<Hashes(a
<InCauldron(eb
FRound(ebi
>Wei
<LockPeriod
<Maximum
=in
?imum
<Of(b
=pen
<Pending
=ool
<Rejected
<@
<|
<s
=(a
>b
?k
=!
=BySender
=ETH(b
=Of(b
9or
;(a
<b
;=(b
<idIDs(ba
;Cap(b
>Wei
<omplete(b
=unt
@er
;DistributedReward(b
;ETH=(b
<thCollected(b
;Indexes(a
;List(b
;MaxCap(ba
<inCap(b
;PoolAddr
?MintQuota
;Statement(ac
;$s
=talReward(b
;WhiteList@(b
;_rounds(b
;s
<(a
=b
<!
=lloca~
<CompleteCount
>unt
=urrentPeriod
<Index
<Keys
@(a
<Lockdown
<OfCauldron(e
FRound(ei
<PeriodsElapsed
<Share
<Total
<Vest$Alloca~
<|
<_count
BdownDate(b
=locked(b
5olSum
7@
7|
7lar_account
8ed
:Burn(ba
:Mint(ba
9r
:1
:2
:Addr
>ess
;pproval(ba
Dba
@e(bba
:Burn(ba
@da
:Claim(ba
:Delegate
:Failed
:Locked
<okupName
:Mint(ba
:Set
;ucceeded
:;(bba
:s
;(b
7stampdissolu~(fa
5p3d
5ubuted?(b
6ibuteData(j
3ven~Id
5rsionFee
:Hashes(d
:OfferedAt
:Rate
>OfState(a
>s&
:Whitelist
:_rate
:s(a
;Count
;Enabled
6t
7(a
9a
8b
9aa
9baa
8c
8gaa
71(cc
80MTI
72(ccb
8Peony(a
=$(a
9latinum(a
@$(a
7AllOld$s(aa
8mountTo$s(a
7Chest(a
7DustToEther(a
7EthToMet(a
:erToDust
7For(gaab
:Multiple(ghhhb
:Prioritized(gaabaaedd
Kedd
E2(gaabaedd
8romWei(da
7Gene(<uint8[7]>
;Array(a
8reyGreen(ee
7Internal(bbaa
:oHtlc(dbaaad
7MainchainGPX(cc
8etToEth(aa
8inimalToSignal(a
:t(ba
7Old$(b
?s(ba
7Presale$s(baac
7Rate(bdja
8egularToReward$s(ba
9ward
7SignalToMinimal(a
7To(acc
9AllTable(ac
9Bytes(p
9Decimal(a
9Each(aca
:th(a
<er(a
:ur(a
9Int(c
9Meth
9USD(aa
9Wei(a
>c
=da
9kens
=(ab
=?InWeiAtRate(aa
8ransferred$sToMny(abba
7WeiTo$s(a
7_valua~_to_art(aa
7ed(a
8rType
7ible$(k
@Count
2o
3AddCro(b
6Manager(b
6Reviewer(b
6ress
:1
:2
:3
:es(a
3RemoveCro(b
9Manager(b
9Reviewer(b
3|
3kUpFee
4ie=(b
6Produc~(b
@Multiplier
3lDungeon
4Hero
4down
8(b
9i
8Levels(a
8@
8s(a
4offIncrement
3perateRewardSupply
8iveClose(biVjj
3rdinateToIdentifier(aa
:sTo!es(i
9orAccountCount
BIndex(a
<greeForEmission(b
;SetAgreeForEmission(a
3wner^
2piesSold(a
3y(C
4=(b
5ytes(jaaja
4paste
2rdX(a
4Y(a
4Z(a
3e
4!
4&
4Staff?
5upply
4TeamAddr
8MemberOne
>Two
8Supply
8$Supply
8UnlockedAt
4VUPDestina~
3porateSupply
8ion&
3rectExchangeRateBTCxETH(a
7OriginalSupply
7PreICOPeriod(a
7Result(0
7edHero&
4uptElite
2s(k
3ign(aa
3t
4(bajj
41token
4&
4ForProductCycles(aa
4OfACoinInWeiForTier(a
6One$
6$
4PerTicket
4Recharge(a
4ToCallOraclizeInWei
7reateGame
4Wei
4_of_transfers
4s
5(a
2uncil
4t
5(CC
6b
5ActiveCastle
6ddresses
6llCliDrm
6ssetEvents(d
:s
;(a
5Bet
6id(e
6tc!LeadingOnes(ja
6yOwner(b
5Cars
6laimBackers
:s$(b
7iDreams(b
8Managers
8Tasks
8ents
6onfirma~s(a
<ed
7ws
5Days
6estina~s
6ownToEndCrowdsale
5Egg(l
5FishAtBase
6ortunes
5Games
5Hand(p
6olders
5Investor
=sRefunded
FInCrowdsale
5LeadingZeros(aa
5Managers
6embers
6ilk
6onths
5Of!es
7Cell
7Deeds
<ByOwner(b
7Owners
7Participants
8ublicKey
@(d
7Sale$s
6rigins
5Participants
9nerPlayers
6erfClients(b
9Managers
9ormers
6layer
;sInPosi~
6ortfolios(b
6rojects
6urchasedPixels
D(Q
5Ref(b
8erral(b
7maining
5SecondWinners
6takeHolders
5Team
6ickets
6okenHolders
:s(ab
7talInvestors
CInCrowdsale
5UBetChecks
6p
7(b
6sers
5Votes
:(a
5Weeks
6hitelists
6inners
7shes
;At(b
5Years
5ZTKChecks
5_customer_deposits
6donors
6token_holders
5down
9Decrement
9s(a
5er
7(a
7OfStack(d
7_in
5ingMeme
5ries(a
;a
:e
9Cities(aa
:ount
9LockEndingAt
9Status
9$s
9|
6y
7Data(a
7IndexToApproved(a
>Owner(a
9fo(a
8tems(aaa
7LengthOf
7Of(a
8wnersOf
7Stats(a
9ructs(a
8upply(a
7@Lock
8oRank(a
7WinnerID
7ofN(b
5s(a
3pDetat(b
4leImageIPFShash
4on(aeedd
8kedd
6BonusEnabled
6$
;BountyAddr
;CampaignAddr
;SaleAddr
3rse
4t
2vfefeIndexToApproved(a
>Owner(a
3man!
6ager!
2ws(a
1pCap
2n(a
1r
2aft(<uint16[16]><uint16[16]><uint16[16]><uint16[16]>
5TwoCards(aa
5ing
3m(bac
3tesMigrated(b
6Sold
3zyearners(a
2cWithdrawAccount
2earCelda(aaaaae
4t$s
5e
6(a
8aab
;b
9mb
;b
8b
8c
8daaa
8j
7b
8a
9a
:a
;aaaa
;f
:b
9c
9ha
8b
9baaaa
;eea
:bbb
9caaaaaaaa
Bb
8cda
;b
8da
:b
7c
8aaa
8c
9a
9b
9caccac
9ea
;b
<aaa
:b
;a
8f
7d
8b
9ba
8deeaaab
7eell
7ga
9a
7qlj
7sj
618Films$s
620&Toy
71Kitties$s
8Pizzas$s
63Doggies$s
6Accessory(e
?Series(eia
9ount
=(b
>ddbb
8tivity(kknll
7dSlot(caah
8dOn(ca
7ffiliate(allb
7greement(aa
?Set(h
7ll$s
9oca~(baa
7mountFromEXORFor!(ab
@TmedFor!(ab
7ndBookCanvas(b
:uyAll?(bbbaba
EBuyEth(bbaba
Nbaba
EPayEth(bbba
Pb
9JoinCDP
@AllDai
@Dai(a
9SellAll?(bbbaba
FBuyEth(bbbaa
Qba
FPayEth(bbba
Pba
8gel(e
;CardSeries(ealekl
8imecard(cccca
8noTrade(faa
7pp(cac
9Instance(dj
9rovalEvent(fbba
7rea
8twork(cba
=Auc~(cci
7sset(abakeee<uint8[10]>al
<jajjb
9ignedAthlete(bca
7uc~(a
?a
@aa
Ba
Cab
Bb
Ca
Bf
@b
@la
?baaab
?nn
>baaa
Ba
Cb
?kkalkkla
>tnntb
=FromArray(bhaa
=WhenPaused(bbaaaa
8dit(aaa
7vatar(bca
=ca
6Babies(hhhh
9y(aaaa
8g(a
8lanceSnapshot
8seEmoji(cc
8ttle(ahda
=bhda
<board(ae
Be
7eat(pe
9uty(cba
8t
9(aaaaf
;da
:caaaac
:ddaekkkeae
7id(dbbbaaa
8tcoin!PrefixTask(jaaa
Rb
7lock(aadddd
7oardHash(db
8ok(bbba0
8unty(a
=ch
<$(ba
As
7rand(da
8eedingAuc~(tnnt
8oker
7tc!(aa
@Hex(aa
7ucket(o
8ildingAuc~(ieeeeef
>Omni(ieeeeebf
8siness(aaa
8yOrder(bap<address[5][]><uint256[6][]>hpoo
7yCOO(caa
6CDPLeveraged
BAllDai
BDai(a
7P(bcc
7ampaign(badddd
?cJhaaaa
@chaaaa
?dab
8ndy(ca
9vas
8r$(c
9d(aa
;b<uint16[5]>k
<kk
;c
<abbf
:ForAcquiredPlayer(ab
Ks(hb
;romName(c
9s$s
8stle(acllllll
=bacllllll
<Sale(aaaaa
<With$(bicllllll
8tegoricalEvent(bbe
AMarket(aabbodcc
=y(c
@ca
7eleb(ca
>RR
>bRR
;rity(cbbaafh
8ntralizedOracle(j
:urion
8rtificate(ccc
7hamp(b
9nnel(bV
>c
=Delegate(bbV
=ERC20(bV
8eckpoint
;sum(aaj
>Algorithm(a
>Pair(aa
8ildDeposits(a
;Universe(dhf
Dhf
;ren(ii
7ity(a
7laim(gab
8one$(acc
Abacc
Decf
Gb
Acecaf
Fb
7ode&(c
:UpgradeProposal(bd
8in
:(caaccb
;kc
:s
;(b
8llectible(aab
Eb
Cbaa
8mbinedAtom(aa
9mitment(a
:onAuc~(ac
<Player
9pany(ca
>dda
:onent(c
8ntest(ca
:ract
>(baaa
@bac
Abaaa
?cbbc
@c
?fc
Af
?ja
>AllStar(c
?thlete(c
>Car(c
?ity(c
Dc
?ollec~(c
Aor(aaac
Dc
@mpany(c
@vfefe(cck
>Dank(c
>Edi~ForCollec~(caa
?lement(ca
?moji(c
?xoplanet(caiciec
>Game(c
Da
BItem(ca
?em(c
?irl(c
?rey(c
>Item(c
Dd
Eb
B23(cc
>Meal(c
@me(ac
Cc
?ovie(c
>Number(c
>OfAthlete(cbaaa
>PeriodicTable(c
Ason(c
Fa
?izza(c
?lace(cc
Ayer(ca
?olitician(c
@o(c
@w(caa
Ea
?reciousForEdi~(bac
>Region(c
?ide(c<bytes7>
>Scene(ch
@ientist(c
?pecial(c
?tate(c
>$(aaab
Dc
CWith^(ca
@t(c
Ca
@y(c
?uber(c
>Waifu(c
?hale(c
>emoji(c
>or(bbfbcc
Gf
9verter(bbibi
8st(a
8untry(c
9pon(c
7reator(bcaa
8owdsale(aaaa
Dbbb
Bbbbbaaf
@bbaaaaafe
?Tiers(ohhhhGG
8ySolObject(cakkee
9ptoAvatar(aaaab
<Gamer(ca
Db
<n(ceaab
7urrency(ccea
Cc
8stody(b
;mAtom(leeenni
<$(cce
Eaa
<VUP(ba
6DAO(baaa
7aoPOLSKAtokens(b
8taset(cac
9e(aaaa
7ebt(bba
:$(ccaaaaaab
8faultEtherDog(aaabaa
=Games
>en0EtherDog(abaa
ALinglongCat(abaa
AZodiac(abaaa
=LinglongCat(aaabaa
=Zodiac(aaabaa
8listingProposal(a
8posit(aaj
?j
>baa
=!
DFor(b
=&(b
8structibleClone$(bacecf
7iamondAuc~(aaaa
8gitalArtFee
8scipleSale(aaaaa
9pute(aj
=Crowdsourcer(bbadhf
9trictOmni(eeee
8vCard(caa
9idend(aa
Aba
>Percent
>WithCheckpoint(aaa
Obaa
7ocument(a
8wnRequest(ba
7ragon(baaaa<uint240>
=eeeeeeeekk
8ug(da
7ungeon(aaaaab
Bb
@b
8tchAuc~ToBuy(aaaa
6EIP20(acec
7RC20(acec
<bacec
;$(acec
7THCardCollectible(eeabaaa
7di~(a
=Meta(a
7ggScheme(aaaaaaff
7mergencyFundReleaseProposal
8ojiStory(h
7ncryp~Algorithm(a
8try(cc
7scrow(bab
>baaaa
=qbba
Akiiedd
7thInvestorRequest(a
9erMonster(aaa
7vent(b
<doba
@aaa
7xchange(aaa
6Fashion(b<uint16[9]>
Jk
7ee$(bb
9Window(bba
7iatInvestorRequest(a
8ghtAuc~(aaaa
8lm$(ca
8nancialStrategy
8rstCommonsForum
;Day
;Round
7lowerAuc~(aaaa
7ootballerStar(aaaa
8recast(aaeefee
:verRose
9warder
7ree$(cb
:ze(aa
7unding(baaa
6Game
:(aa
=aa
?ae
=cb
;caa
<ckl
;d
<aadj
=b
<b
;hhaa
;ilii
7en0(a
:Auc~(a
Ca
Daaa
Fb
Ceeee
Ckkkkk
Cnnt
Bcc
:Dog(a
:Horse(aaaaaab
9es(bafaa
;isUniverse
9nezise(i
7ift(acc
;d
:Template(aacc
7rant(baa
?ff
<d
9vatar(cc
8oup
;(aaaaaaaa
<caaaaaaaa
<da
7uardianSale(aaaaaa
6HKG(b
7Ntokens(b
7ONtokens(b
7ash(<uint8[5]>d
;a
<b
7eld(ba
8ro(ab
7odler(bql
8rseShoe1(aab
@0(aaaaaaaaaab
?4(aaaaaaaab
7umanStandard$(acec
7ybridiza~(aa
6ICO(jj
7co(aaaaab
7dentity(bb
>WithCall(bbbj
7lliquid$(ba
7mage(bakkkk
7nitialAllotment(ca
=Cards(ikk
=Days(a
=Items
=Reporter(bbb
=$s(ba
8stance(bdbdj
8ten~(b
8vest&(baa
<ment(ba
<or$@Lock(baab
>|(aba
9ite(j
7sland(dabaa
8suance(aaaaccea
:e(aaa
;d$(ghaacec
7tem(aa
;caaR
>a
>bR
>ffca
6Job(dbba
9Escrow(qbbaaii
8ckey(aaaaaaaaaaab
6KT(c
7ingdom(bccaf
>caaaa
?bbbaaaaa
?cabf
Af
8tties
6Lambo(abl
;Sale(aa
8nd(b
<a
:AndAuc~(babaa
:mark(aaba
?cba
8stDay
:Will(bccc
Caa
7egendaryAuc~(ac
7iability(jj
8brary(cc
=Bounty(ccba
=WithFounder(ccb
8ghthouse(aac
8neItem(caaah
9k(d
8sting(Daa
>aaa
Ab
>baaaa
7oan(bbbacaaaaaa
=daaaaaac
8ck(baa
:ed$Cor(ba
APri(ba
:ing$Vaults
8veBlock(cf
:Story(qdda
?WithData(qddac
:r(ccc
6Mailbox(bbb
9nNet&(aa
8nager(bb
9yDrinks
:Proxies(abj
8p(bb
8rket(bbK
?aabbbaa
<Order(eaaaba
9riage
>(cccc
Ca
8sterpiece(cca
8tch(aa
=ccSll
<ccaa
?c
7ember(brl
9e(ca
8ssage(d
7icro|(aa
8lestoneAcceptanceProposal
?PostponingProposal(a
8neFor$(aaaa
Ga
:rAuc~
;al(da
9tableSale(aaa
7obster(caa
Aac
=WithOwner(cbaaac
8nster(aaaaaj
8rePaymentChannels(a
7ultiple(hhhb
Bg
Cp
Bhphg
>Phoenixes(hhh
>Shows(h
>$s(hhbh
;sig
6NTVU
7amedDistrict(acf
:space(c
7ew(bbbaaa
:db
9Account(b
:sset(aakee<uint8[10]>
@bakee<uint8[10]>
:uc~(aa
9CSCResource(cca
:ardType(aaaa
9DAO(b
:eposit&(a
:raw
:ynamicPayment!(ab
9Elec~s
9Game(ccca
9Hodl(a
9Martial(aaa
:intableUser(b
9Person(bca
:layer(c
:op(ac
9Revision(rj
9SecurityDeposit(cca
:ubtoken(aba
9TankHull
=Weapon
:ourament(h
9User(bc
>cc
>djb
@ddb
9Vesting(baaacaf
8xtGenera~(5
E6
:PremiumSale(ea
7ote(kIXj
7umber(a
6OfAthleteCard(cbaaa
8fer(aaa
<ka
7nDay(a
8Round(a
8eDrink(c
7penValentineRequest(ccc
8~Pair(babaaa
7rSet(cac
8aclizeCallback(daea
8der(aaa
<bbaaa
=eaabaddd
<nkaea
7wnershipOffer(b
6Padlock(c
8inting(a
?baaeeaa
8nda(aa
<yaa
8rtner(baaa
=Player(aaab
8ssage(php
8ttern(dcbc
7erDay
9Round
9centageRequest(a
9missionsBot(b
9son(ica
<Gen0(cclf
<alDeposit!
L(d
LFor(b
8t(ec
9CardSeries(ei
9i~(ccafc
7hoenix(aaa
7ipe(aad
8ranha$(cbaee
Bs
8xels(a
7lanet(ca
9yer
<(<uint32[7]>ab
=aaccccccba
=caa
=k
<AndAssign(eeeeeeeejcb
<Match(aaaaa
<OnAuc~(eeeeeeeejca
8edge(acc
7olicy(baedd
9l(ce
;jkaa
?bbb
8ol(caa
8rtfolio(a
8st(c
7reIco(aaaaaab
9Sale(aa
=Ship(caa
9sale(baa
=Unicorns(ab
8icing
9zeFighter(kaeeeeb
;Pool(h
8oduct(aaaaa
>dcbaea
@dd
?n
@a
=ionUnit1
EBeta
D2
EBeta
D3
EBeta
D4
D5
D6
D7
9ject(bccd
>cbb
9moAllStar(bca
<rtwork(ccib
<thlete(bca
Ebaaa
;Bot(ab
<rand(dba
Da
;Car(bca
<ity(bca
Bca
<lown(abf
<ollectible(aba
Geeabaaa
FWithMining(abaaaa
FsWithMining(hghhhh
>or(aaacba
=mpany(bca
=vfefe(bccka
<utie(ab
;Drug(dbaa
;Eggs
<moji(bca
Cca
;Fighter(aeeeeb
;GameItem(bcaa
<irl(a
;Hero(ab
;Item(bca
;Kitty(ab
;Listing(aaa
;Masterpiece(ccaab
<eme(baca
Aca
<ineral(dbaa
<onster(ab
Cijb
BWith$Id(ijba
=vie(bca
;Narco(ccb
<inja(ab
<umber(bca
;Person(aba
Bbca
Dllca
=t(abaaaa
<layer(baaaaaaa
Ccaa
<olitician(bca
=ny(ab
=w(bcaaa
Da
<uppy(abkkkk
;Rabbit(ab
<egion(bca
<ide(bc<bytes7>a
;Scene(bcha
<eedAuc~(eeaaaaaa
;Team(bca
@cba
<oken(bca
;Whale(bca
;~alPurchase(aaba
ARenewal(aa
9posal(aaaaaa
@b
?bacaeaaaab
Bj
@f
9xy(bj
;!
BFor(b
7ublicKey(j
8ppySaleAuc~(aaaa
<iringAuc~a(aaaa
8rchaseOrder(baad
9se(c
6Ques~(cbna
6Race(aaa
8ndomAtom
<Box(cblan
<Number(a
<Zombie_Ether
CFreeZombie
CZOB_goldpack
Gsmallpack
8re(ca
:Auc~(ac
:Card(aaa
8wDeposit(baaa
7ealmSale(aaa
8cord(cc
8ferralGiveAways(aab
9und
<Poll
8gion(Qbaaaa
=aaaa
:stry(bb
>Instance(bb
8leaseAuc~(aaaaa
=$Auc~(caaa
8ntAuc~(aaaaa
8puta~$(bb
8quest(abac
>bgBbc
=AsPayee(ggBbbc
DAc~(ggBbbc
LjBbjc
Cr(gBbhhc
DAc~(gBbhhc
=FromBytes(j
8source(aaa
>Set(aaha
8tainer
8ward(aa
<Collectible(eeabaaa
7ich&(c
7oom(ca
8und(aaaa
<coa
<dd
;s(a
9tingCode(d
6SDC(baa
9C(ba
7addle1(aaab
<6(aaaaaaaaab
8le(a
<a
=aab
=b
;ba
;caaaa
;da
:1
:2
:3
:Auc~(aa
Daa
Faa
Btnnt
AERC20(abaaa
:CardToPlayer(hb
;ontract(baaf
:$s
@Vault
7calarEvent(bbmm
<Market(aabbmmadcc
8hema(j
7eason(ill<address[8]>z<uint16[8]><address[8]>
8condPromoCollectible(abab
9urity$(ccaebabaeae
8edCollectible(eeabaaa
:Team(e<uint256[9]><uint256[9]>
8llENS(ca
:Order(aa
@baap<address[5][]><uint256[6][]>hpoo
8ratioStake
9ies(ajaccbb
=dcda
=jaccb
7hare$(bba
;s(ba
8ow(a
7imilar$s(haba
8ngleSeedAuc~(eeaaaaaa
8ringAuc~(aaaa
7ketch(cc
8in(na
7lot(aa
7napshot
7pecialCards(ikk
8litAgreement(bbb
;ter(gc
8ortEvent(cea
7qr(abaa
7tamp(ba
9ndingOrder(baaac
9r(ekcc
:tingColors
8rategy(cccghd
8udent(ccciA
7ubscrip~(aaa
BOffer(akaaaaaj
7wap(a
<abbb
<b
;rb
=ab
7ystemAuc~(a
<SaleAuc~(ijk
6TapPoll(e
8rget
<edValentineRequest(cccb
7eam(ca
<c
=aaba
=iia
;dWWWWWW
<ccccc
;h
:SaleAuc~(e<uint256[9]>aaa
:$@Lock(baab
:s
8mplate(c
@dfbdaaea
>AndAskQues~(ccbiia
8stData
:Net&(bbbaaa
7hemedSpinner(caba
8ing(oo4
;s(oNoN4
8read(cc
7icker(a
8le(keeeikllbe
8me
:s(a
7oken
;(<DRCTLibrary.$Storage storage>abb
<aa
>aaeab
?be
>ba
=ba
>b
>caa
?c
>daad
>fa
<ba
<c
=a
=b
>a
=ca
>b
?e
>ca
>e
?a
@b
?ghh
=i
>ba
<dcc
?ccc
;ByAtes(bac
=HWC(ba
;&
;Locker(bb
;Proxy(b
;ToMarket
C2018
F9
E20
F1
=Opera~
=Tax
>eam
<ransfer(bba
CSet(h
;s
<(a
>a
=b
>a
=hgohho
=o
<1
<AnySale
<ForCrypton
=romOther(bab
<Manually(ba
<To(ba
>Owner(a
<WithoutReffer
8urnament(a
7rade&(baaa
Hff
Gf
Ebaaaff
9iner(ck
9nsac~(badbb
Gb
;ferAgreement(aab
?uc~(aaaa
>Event(fbba
8eatyRequest(eca
9e(cc
7ulip(ad
7x(aba
6Unicorn
=(b
=ForCandy
=^
BInCandy
9queSpinner(cba
9t(a
:Omni(ib
9verse(bbd
7pdateRisk(dda
7ri(c
9Set(h
7ser
:(brl
;dc
<d
:AndConnec~(bde
:Meme(baca
:name(c
6Value(ba
8ria~(aa
8ultAccess(a
7endingItem(aaaaa
8stFundFor(baaa
:ed$(baaaa
:ing(baaa
Baf
Db
?baaaa
Alll
=ByDura~AndSplits(baaaa
=&WithConstantPercent(baaba
IFloatingPercent(baabh
=ForFounder(b
=Grants
7illain(caaa
8p(baaa
8rtualEntity
CAndConnec~(bde
7oter(b
6|
<(agd
=bb
<s(a
7hale$s(ba
8eelBetHash(aaa
7ikiPage(ccca
8ldcard(cak
8nner
8thNonce(dj
:Reward(cfab
8zzPanda(yab
7onderNotAuc~(c
8rkOrder(bn
:erPool(caaa
Eb
6XMLYTrade(faa
6YesNoMarket(aabbdcc
6Zombie(edkfb
6_a_new_market(baaa
Ebaaa
7block
7forwarder
7price
:vate_room
8ublic_sale_token(ba
7safe(bcc
7tablet(d
8oken(<Member>a
6d
7(b
9a
8ccba
7At
9Block
7On
7@
;stamp
7User(d
7|s
7_contracts(b
6r
7!
6ship(ab
6token(cca
>ccca
6village
5ion!
8Block
8Cap
8Date
8Fee
8InvestmentSupply
Bing
8MaxCap
9inCap
8Profit
8Quantity
8RateOn@
8@
8Unit
5or
7Addr
;ess
7=s(b
7FeePercent
7IndexToApproved(a
>Owner(a
9ited
7Of(a
7Paid
7Reward
7Supply
7Withdraw
7_
8fee
8new
8tablets_count(b
7ad
7s(a
8!
8CreatedCount
8Locked
8PoolAddrs(a
<MintQuota
8Total=
8_count
5ureCosts(e
8IndexToOwner(a
3dentials(b
4it
6(ba
7gh
6Account(ba
7dvertiser(b
6=Of(b
6CEO
6Dao
9!
7ragon(ba
6Equally(ga
6FundNIMFA!
6Game!
6Jackpot$s(baa
6Mc!
6Of(b
7wner
6Remaining(b
6ShareProvision(aa
7tatus
6$s
6|UserLMNO(ba
6coinLimitInFrac
6edPoints(b
6or
8!es
A(a
9mounts
?(a
6s(b
7=Of(b
7Clawbacked
7Exchanged
4oEthExchangeRate
5sReserveAccount
>lloca~
3sus!
2n(b
2onaddOf(b
4outOf(b
3ps(b
3sairShipMinted
8oldCount
7VoucherSoldCount
>sMinted
4sForkBlockNumber
9Count
9Distribu~
9Fund
=Deposit
9ing
3upier
3wdDistribu~
5ETHTotal
8s(b
6ther
5Fund!
9ing
5^
5Sale
9Addr
=ess
:llowance
:mountRaised
:pprove(ba
9=
9Cap
:heck
:losed
:ontract
9Donate
:ragon^
9Enabled
;d@
<ed
9Finalized
9HardCap
9Initialized
:sOver
;Running
9Max
:in
<?
9On
;going
:pen
:ver@stamp
9Pause
>d
:ercentage
<iodInit
9Sold?
:tart
>@
Bstamp
>ed
<te
;op
9@
:oken
>s
?(b
:ype
9ZxcSupply
9address
9sCompleted
6upply
5Target
6okensTLP2
5_end_date
6start_date
5fund!
9&
9Deadline
9EndDate
<@
<sAt
9Finalized
9PercentOf$s
Dtal
9StartDate
>@
9ingTarget
<_alloca~
5sale
9(aaa
:b
;a
9Active
?(7
@<CrowdsaleLib.CrowdsaleStorage storage>
ADirectCrowdsaleLib.DirectCrowdsaleStorage storage>
:ddr
=ess
@Set
:gent
:irdrop!
:lloca~
=wance
:mountLeft
9=
@s(b
:eneficiary
:urn!
>mount
9Canceled
;p
:losed
?@
=ing@
:ompleted
;ncluded
<tinue
=ract
A!
As(b
>ibu~s(b
>oller
;unt
>er
:reators(b
9Das$sChangeBeneficiary
:eadline
;posited(b
:istributedUnits
:ura~
9End
<Block
<Date
=eclara~@
<Lock@
<@
<ed
>(7
?<CrowdsaleLib.CrowdsaleStorage storage>
@DirectCrowdsaleLib.DirectCrowdsaleStorage storage>
>Block
>Successfully
>@
<s
:th
<er
9Finalized
<ish@
?ed
:unds|
9GoalReached
9HardCap
=End@
;sEnded
9InProgress
;fo
;it
=ialSupply
:sOpen
9List(a
;ve
:ock
9Manager
:inElapsed@Levels(a
<USD
<ted
>r
=ingCap
9On
:pen
=(f
=ed
=ing@
:wner
9Pause
>d
:hase
:rice
;ogress
:urchase?By(b
As(a
BLoaded
9Raised
;tes(a
<io
:efund
:unning
9Setup(aa
:oftCap
;ld
:tart
>Block
>Date
>@
Bstamp
>ed
>ingBlock
>s
<te
=us
?(f
;op
=(f
=Date
=ped
:ucceeded
>ss
@ful
;pply
9Target
?BRA
?Reached
?UBO
:oken?
>=
>Mint
>^
CDenominator
CNumerator
>Sold
?upply
>s
?|
;tal
:ransfer(ba
9Uncapped@
;pause
:serCaps(a
9|
:eiAvailableLevels(a
<Raised
9_end
;th_fund
>refund
9closed
9pricing(ba
Ca
9s(b
6ourcers
4ned@
4saleShare
9lots(a
2r
2ySolObjects(a
3ptaurBackend
8Recovery
:serveFund
:wards
8$
8us
5iblesAuc~&
5oAgent
6ColorData(a
6Jingles
6Storage
8ring
6gs!
6nIndexToApproved(a
>Owner(a
>Protected(a
3stal
7^
1s
2ale
2l$
2o!
2t=Limit
3ToMicro
1t|
2o!
2rtMarket^
4$
2u_owner
1ubic&
2ddleData
2lcurateBonusRate
3mulative_demurrage_collected
2mAcceptedDeposits
4lienDeposits
3mulative$sSold
3ulative(a
:Inverse(aaa
:Rates(a
=ios
2p
3i
3s(d
2rBubbleNumber
3Config
3Id
3Max
6Bet
3OpenBNumber
3PayTableId
6outId
4rice
3Quater
3Release?
5questId
5ward
3UserId
3Votes
3ator
7Account
8ddress
7Write(ao
3entBallotId
6Winner
3rAdminEpoch
4Block
4Champion
4NumOfBattleCards
9Cards
9Upgrades
4PicHash
4Round
4SaleActive
8Complete
4@
4_number
4encies(a
;d
7y
8Map(b
8ToHash(c
8UpdateAgent
6t
7ARXtokenSupply
8ctiveGameID
8ddress
8fterIcoPeriod
8greement
8irdrop
>?
8lloca~Length
As(a
8mount
=Of$sWithNoBonus
=Raised
>eceivedDeposit1Ether18Decimals
8pplica~Entity!
8uc~
>Id
8wards
7Badge
9lance
>Sum(b
9nker
;roll
9tch
8eneficiaryCap
9t
:?
:Limit
:Number
8id
:Number
8lock
<Hash
@Cst
8onus
<(a
<Level
<Percent
<Rate
9undary
8urned
7CandyTotalSupply
9p
:Ether
:Level
:$s
8hallenge
:rId
9eckpointId
8irculating
8laim^InFinney
AWei
9uster
8oinsCreated18Decimals
CInteger
CPercentage
9ntract
<ibu~Limit
9st
;ToPress
9unt
<er(a
8rowdsale
8ycle
7Date
9y
:OfWeek
:TS
8elayOnNewLevel
9positLimit
9vFees
8ifficulty
AWei
9scountPercentage
:tribu~?
9vidend
??
8rop
7Egg^(a
8lement
8poch
8ra
:Index
8thBlock
:Invested
:^
:er=
<RateInCents
8ventId
8xchange^
?System
9piryInterval
7Fee
:(b
:Percentage
8iscalYear
8lower^
8ulfillment(c
9nding?
>Stage
;rise
;s
7Game
;(b
;=
<lockNumber
;Cost
;Id
;Number
;Status
8en
:e
;ra~
;sis!es
7Halving
8ighestBid
9tTotal
8odler
=Id
9lders
8unterNumber
7IDnumber
8co
:PeriodStartDate
;haseBonus
?Minimum
:Rate
:Supply
:$^
:|
8ncreaseWithdrawalTeamBallot
9dex
9itPart
9terval
9vestment
=or
:oice
8tera~
@SupplyLimit
7JackpotInWei
7Key
:Round
8ing
7Leader
9vel
8iquidInDeal
=ity(b
8oca~
9tteryId
>Value
9west
=Count
8uckyStoneNumber
7Manager
9rketRate
9xPurchase
:imumSalePercentage
8essage(a
>Number
8igra~Source
@Target
9lestone
@(a
9nBid
:Purchase
:tNonce
;able
?$s
;ed$s
<r
8odifier
9od
8ultiplier
7NetfRound
8iceGuy
>Idx
?ndex
8once
9rsefire
8umberOfRares
?Units
@pgrades
7Opera~
8wner
<(a
<FeePercent
7Participants
9yment
:out(bf
8endingParticipants
9riod
=End@stamp
>therCollected
=Index
=^
=Rate
=StartBlock
=$Collected
:sonalLimit(b
8hase
<!
<Id
<Rate
8layers
>Required(b
8ot
:Split
8reICObalance
:Sale
:miumSale
9ice
<(a
=b
=e
=i
<ChangeNumber
<InfoOf(aa
<s(e
:vateSale
9ofit
=Pct
:posal
8ublicSale
8yramid=Approximately
7Ques~Id
7Rate
;(a
;Level
;M
8ecord
=s
9fundInvestorsBallot
9leaseCeiling
9wardNum
=ReleasePercentageRatePerYear
8ound
<Budget
<Count
<Id
=ndex
>fo
@rma~
>itialized
<Locked
<Multiplier
<Num
?ber
<Parameters
<Start
ABlock
=upply
8uling(a
7Sale
;!
;Cap
;Day
;Limit
@Per!
;Phase
<riceInWei
;Sold
<tage
8eason
9c~
9gment
9ller
9ries
9ttlementPhase
8martSpeedNumber
8napshotId
8piderOwner
8quirrelOwner
8tage
<Index
<Number
<$sBoughtBy!
BCap
BRate
:te
<Active
<Sales
=tart@
<ToString
;us
9ep
8ubRound
9pply
8wapRate
8yndicateValue
7TadpoleOwner
9sk
8ethers(ba
9xt
8ick
9er
;Id
<ndex
9me
;Bonus
;Index
;stamp
8oken?
<=
<Count
<Distribu~
<IdNumber
<MarketData(ba
<Numbers(a
<Offered
AingRaised
<PerETH
=rice
<Supply
9talAirDrop
?drop
<Buyin
<Excess
<Supply
B2
<$Offering
9urnamentBank
8radingSystem
:nche
;sferable$s(b
9easure
8ype
;^(a
7UniqueSpinner^
:t
7Version
9sted?
8oting?
=Date
7|
9ve
8eek
9ight
8hitelistCounts(a
8indow
:e?(b
:ner
8orkStagePercent
8ulinMaster^
7_external_block
8item_index
8period
9rice_atto_tokens_per_wei
8round
8spin_number
9tart_divholder
;te
9upply
8tier
<_sold_tokens
9ransferred
8week
7lyReleased
7number
7preicobonus
7wealth
3s
4ed&
3ves
6(a
2stodian
7esArray(a
9Map(b
9ServedBBD(ab
?ETH(ab
6yCounter
7Factory
7Storage
5mBonus
;es(b
7uyerForIndex(a
;Limit(b
6Create$s(ba
6DefrostingRate(b
6Exchange(bba
>Secure(bba
6Fallback(baj
7ee(d
6Payment(ba
6Text
7okenDefrosting(g
6er
8!(a
8Count
8Deposit
?edEther
8Policies(ba
8Service(b
8|
8_tickets(ba
8s
9(b
;b
2t
3(a
3For(baaa
3OffBidID
3ie(i
5IdToAuc~(t
6ndexToApproved(t
<Owner(t
5s(a
3off
6Block
6@stamp
6s(b
1vcOwner
1ycle
5Count
5Length
6imit
5MintSupply
5Players(a
5sStartFrom
0d
1Add(dbf
4Ballot(daa
>f
4Category(ddfa
2lterPull(<uint96>
1DeployBallot(ddda
7CommunityBallot(dddn
4recateCategory(da
2isableErc20OwnerClaim(d
2owngradeToBasic(d
1EthereumlotteryNet
C(bbb
Ffb
1GetPool(ee
1Init(b
7bf
7f
1KERNEL_PANIC
1NextOffer
5Stage(i
1OwnerErc20Claim(d
1SET_XBL_ADDRESS(b
2etArbitraryData(djj
4CommunityBallotsEnabled(df
4EditorArbitraryData(djj
2tartsNow
1TRIGGER_NEXTWEEK_TIMESTAMP
2imeoutCurrentStage
1UpgradeToPremium(d
1aVinci!
2d
3Fab
2gheAcqua(a
2i
3(b
3Rate
3$
3lyAccounting
6dminAllowance
6uc~Start@
5Count
:(b
5Distribu~
5GrowthUpdated_date
;_ppm
5Hash
9Expires
6ourLimit
5Limit
:Left
5Mintable
5Pots(a
5Release
7set
5Spent
6upply
5@
6okensPer&(b
7tals
;(a
5Winners(a
2kehus_dakehuDate(b
8locked(b
2nkIndexToApproved(a
;Owner(a
3serviceTeam!
2o
3Accounts(b
4ddress
3Challenge
4ontract
4reator
3Manager
4ultisig
3StakeClaimed
2pCar$
3pId
4s(b
5BonusCalc(ba
2s$
3h
4Id
4board!
2t
3a
4(a
5b
5m
4!
4Calc(aa
5entreAddr
5ontract
9oller
4Migra~(bg
4PerUsd
7Week(a
4Source
:!
:CallbackExtras(ak
BFinals(a<uint8[4]>
BGroup(aee
BRoundOfSixteen(ae
BTeamId(ae
:GetFinals
=GroupResult(a
=QuarterResult(a
=RedCards
>oundOfSixteen(a
KResult(a
=SemiResult(a
=YellowCards
5tore
4_migra~_control
4base!
8&
8DownloadUrl
4coin
4entryclerk
4setHub
7_md5checksum
8sha256checksum
3boiSupply
3e
401Feb2019
6Oct2018
415Nov2018
4610
4Admin
4Defrost
4Eco
7Release12
>3
>6
>9
5nd
7Ico
4ICO
7Ended
5T
5nit
4MainEnd
8Start
6nager
6rketing
4OfBonusRelease
4ProductCompleted
4Release12
;3
;6
;9
4SaleEnded
8Started
5isterWins
5oftCapWasReached
5tart
9&
4Tier2
83
84
6me
5ransferable
4_
5end
5ico_end
5start
4s(a
5tart
2v$
2y2Start
33Start
3AfterDeadline
8InMinutes
3Cycle
3EthInLimit_
3For(a
3Idx
4ndexToOwner(k
:^(a
@k
3Length
3Pot
6Expira~
6Highscore
6Leader
3SellMap(a
4tart@
5eal@_(a
3ToBlockNumber(a
5Date
5Minus$
5ken!
8Fees
3Withdraw
;Count
3_blocks
4ethIn(a
3limit(a
3sMinutesTilExpiry@
4Remaining
4SinceLaunch
4ToUnfreeze(b
4_interval
4number
1b
2Customer(d
2lShaFlip(j
1df
3tFund
8Deposit
1eActivate
3uthoriseSale(aa
9ze(b
<c
2WhiteList&(b
2activate
:(b
:AdSlot
:&(b
:Device(b
:EmergencyProtectedMode
:LineItem
:Project(b
=vider(b
:Round(a
:@
:User(ba
:_admin_comission
;trading
:d
3d
4Dragons
4Line
4bids(b
4line
8(a
8120
8365
8BlockNumber
8One
8Participa~
9reIcoOne
>Two
8Three
9oFreedTeamPool
9wo
8Voting
8_modify(aa
9status
8s
9(a
3l
4(be
4?
4Confirm(a
4EndOffer(f
4HitCard(<Game>
5ouseCards(<Game>
4InitialCards(<Game>
4Numbers(a
4Revert(a
4Status(a
4$
4_cancel_rate
4erDay
6_cut
6s(a
7hip(b
4locate(ba
<b
=a
:=(b
4s
5(a
7a
6d
5Number
3thBlock(a
5Data_a0
;1
<0
<1
<2
<3
<4
<5
<6
<7
<8
<9
;2
;3
;4
;5
;6
;7
;8
;9
:f0
;1
<0
<1
<2
<3
<4
<5
<6
<7
<8
<9
;2
;3
;4
;5
;6
;7
;8
;9
:v0
;1
<0
<1
<2
<3
<4
<5
<6
<7
<8
<9
;2
;3
;4
;5
;6
;7
;8
;9
5Factor_i
=i
>i
=v
<v
3uthoriseMaker(b
9ze(b
;!(b
;Casino(bbedd
<ontract(b
;Provider(b
2batingPeriod
>InMinutes
3it(gh
5Account(ba
6mountToRefund
5Equally(ga
5|LMNO(ba
5ed(b
3t
4(a
41(a
42(a
4Paid
4or
6(ba
6s(b
3ug
5(c
7c
51
52
53
54
5Buy
5GetNumPendingSubmissions
M(b
5Int(a
5LatestPurchaseCentsValue
6og(ca
5Now
5ResetSubmissions
5SetNow(a
5Val
82
83
84
5_bool(f
6last_approved
6string(c
6uint(a
6wei
2cApprove(bba
3=(ba
3Exchange=Of(ba
3FeeDeposit(a
3Tap(a
4otalSupply(a
3_multiple
3ay
5Rate
5ed^From(aa
<OfCard(a
>SocialIdentity(aa
>TwitterId(a
3entBetMultisig
6ralizedEconomy
3ider
5ingBlock
4m
5al
7Factor
7Multiplier
>y
7Num
7OddsForOutcome(e
8f^
9fset
7Place
<s
7Units
7_precission_difference_factor
7s
8(b
:d
9d
8ETHToUSD
8Factor
8Multiplier
8Value
8_
9multiplier
5ls
4sion(dcgh
8Of(d
3lara~
6eCheater(b
>s(g
8rowdsaleEnd
7DefaultAsBorrower(a
8ividend(a
7Emergency(c
7IcoFinished
7Love(cc
7MvpLaunched(a
7NewMaster(b
:erVersion
7PublicOfferingPlan(aa
9licOfferingPlan(aa
7RF(c
7Winner(bf
;ingOutcome(e
4ine(adj
8b
8c
8dd
7All
7Coins(ba
7Kyc(b
3ode?(aa
6Currency(d
6$Id(a
4mission
5pose(a
3r
4ase@ToAc~(a
4ease(ba
8AfterBurn(ba
9llowance(ba
Df
Cba
AOrEmtpy(ba
9pproval(<ERC20Lib.$Storage storage>ba
Aba
Cj
Dc
Bba
@AndCall(baj
@ByLegacy(bba
@PreSigned(baaaej
Jjbaaa
ICheck(bbaaaej
IHashing(bbaaa
@WithData(baj
9rrival@(aa
9ssetsCertified(a
;uranvePayments(ba
8=(ba
8Cap(a
8Frozen(ba
8MonsterExp(li
8OffsaleCountByOne
9wnership$Count(b
8PreSaleSupply(a
;gnantCounter
:ice(a
8Rate(ab
8SoldSaleSupply(a
9peed(a
9tepPct
9upply(a
@b
8Threshold(a
9okens(ba
>Multi(gh
8WeiRaised(a
5e
5ment(b
9=(ba
9Inventory(aa
9OpenInterest(a
EFromMarket(a
:wnedArea(ba
>$sLength(b
9$IdsLength
;talEscrowed(ba
5seApproval(ba
2deNetwork
;!
3icatedProxy!
3uctExtra=(ba
6FromBond(5ba
?6ba
7unds(<AccountingLib.Bank storage>ba
=Bank>ba
6TrainerBrick(bi
6ion$(ba
6shares(ab
2edByIndex(a
4&
6unt
4Ids
7(a
4Name(a
4OfOwnerByIndex(ba
4Uri(a
4sOf(b
7Owner(b
2fValue
3aultAc~
8mount
8uc~Dura~
>^
7BonussRate
8uyNow^
:erLastPaidAt
7ClaimPercentage
8reatedCount
7Deadline
7Edi~Limits(a
8xchangeRate
9piry
7FoundersReward@
7IcoDeadline
:Start
7Limits
8ockBlocksForPool
;in(ba
7ManufacturerReputa~s(d
9x
8inting!
7NumberJuror
7Operators
8wner
<s(a
7Params
9yment
8ercent
8rice
7Rate
8egionTax
9puta~Reward
9solver
?Changed(bb
7Sale^
8weeper
7Text
8imeoutLength
8oken
<sPerWei
8reesOwner
<Power
9igger@
7URIEnd
:Start
7Wait@
7_helper
8price
8rate
3con
3ence(bakjh
7ElementBySubtypeIndex(a
5dFee
4rredTotal$s
3ineCurrentPeriod(aa
6Project|(b
6Reward(cbaa
6Type(ceeieie<uint32[5]><uint32[5]><uint32[5]>
6dGames(a
3reeze(ba
4ost
7Advisors$s
7Date(b
7Frozen$s
7Owner
7ReserveAndTeam$s
7$
<s
=(aa
7ing
3und
2icmals
2l
3(b
4d
3Accepted$(b
4ddr(a
5min(b
8Usrs(b
4uthorized(b
3Backend(b
4lacklist(b
4ot(b
5unty(ba
3CEx(b
4ashier(b
4ertAdmin(b
7ificate(c
3FrExcep~(b
5omBlackList(b
7VestMap(b
7WhiteList(b
3Investor(b
3KycVerifiedInvestor(b
3Limited|!(b
5t!(b
3Manager
:(b
4inter(b
3Operator(b
4racle(b
4wner(b
3Phase(a
3Referral(bb
3SaleOwner(b
4pecial^(b
4uperInvestor(b
3$
5urnament(b
4ransferWhiteList(b
3Unicorn&(b
5paused|(b
3|(a
4hiteList(b
8list(b
4ord(c
3_admin(b
4rank(a
3ay
5Autorelease
5DefaultAc~
<Release
6onPhase(aa
5Hours
5OfICO1
:2
:END
7PreICO
6pening@(a
5Payment(aa
6haseEndBy(aa
5_pool_change_block(a
;drain_block(a
5edConfirma~s(a
7Owner
7Payments
7$Allocator
<s(b
8ransferFrom(bba
3egate
8(b
9edd
8!
?es
A(a
9llowance(bb
9pprove(bab
8=Of(b
9onus$s(b4
8Consume(aaadeedd
;tract
8DAO$s(a
9ecreaseApproval(bab
:tails(b
8FromBonus(4
<Pool(<uint96>
<Referral(4
8HasValidSignature(<Delegate>
8IncreaseApproval(bab
9sCurrent(<Delegate>
:Deleted(<Delegate>
8Opera~
8Percent(aaa
9roxy(bj
=Assert(bj
=Implementa~
8RecordExists(<Delegate>
:feral$s(b4
=ral$sBulk(g<uint88[]>
8ToNew&(b
:kens(b<uint96>
:talSupply
9ransfer(bab
Bbaa
@AndCall(aaabajeedd
Jbajbedd
@From(bbab
8Url
8Vesting&Owner(b
8_2x(bhgo
8call_selfdestruct(b
8d?sByDelegate(b
:t(b
9From
9Refund(b
9SignedEscrow(jbbbaaa
?Remittance(jbbbaaa
9;(baaaedd
Cbaa
Ecadja
Bjbaaa
AAndNotify(bbaaadja
:xHashesUsed(d
8s
9(b
;db
9ByDelegator(b
7ion
:(b
:s(b
7orStatus(b
4tOwners(g
5eAccount(b
=sInBulk(g
8tivity(k
7ddress(d
=esFromWhitelist(g
8min(b
7llMessages
7nyProposal(d
7pplica~(cf
9roved|!(b
7rbitrator(b
6Bag(a
7ool(d
7ytes(d
;32(d
6Caller(a
=b
8r(a
8scade(a
7ell(b
8rtificate
A(c
@or(b
7harity(a
7itizen(a
7oin(a
8ntract
8upon(c
9rse(b
7rowdsale&(b
7ustomer(b
6Deposit(b
7ocument(a
6Editor(b
7ntry(c
<d
7therBox(b
6FirstOrder(Yaf
7reezeList(b
8omBlacklist(b
:WhiteList(b
6Game(b
;d
7rantee(b
6Hybridiza~(a
6Image(a
7nt(d
8vest(ii
<or$s(ba
Egh
7ssuer(a
6Layer(a
7ock(be
6Manager
7ember(b
8ssage(a
>k
7intable(b
:er(b
7onsterIndexToApproved(a
6Nick
7odeGroup(ak
8te(l
6Offer(a
<k
7rg(c
7wner
;(b
6Payment&(e
7latform(d
9yer(a
=b
7okemon(a
8ll(d
8rtfolio(a
7roduct(a
>d
9posal(c
?dc
7ublicKey(b
@db
6Recording(a
8gion(Qa
=a
<Data(a
7ound(a
6Share(b
8op
:Mods(b
7iringWithId(a
7tar(a
8ockBuyOrder(Yaaa
;SellOrder(Yaaa
8ring(d
6Team(a
;d
8ller
<Mods(b
7hing(o
9s(a
7ile(k
7oken
;(a
;Grant(b
;s(ba
7x(d
6Uint(d
7ser
:(b
;c
;d
:Claim(b
?InBulk(g
:ForUser(cedd
:name(r
6VestingFromStorage(b
7ip(a
6WorkerAdress(b
6_allowed!(b
7blocked!(b
6d
7(ccba
7TeamIds(a
6fromblacklist(b
3imiter
4st(g
7k
6!(b
6Child(a
6Mon(l
4ver
7(aa
8bac
:d
9ba
8g
8ldld
7AngelsREDAccounts(gh
7Bonus
7Management$s(b
7PresaleFuel=s(gh
>$s(gh
8urchased$s
7Rewarded$s(bac
7Team$s(b
8okens(a
>ba
@cf
=Admin(ba
=Batch(gh
7ed
9Eth
7y(ba
9c
8Id
8$(aa
>f
8VSpayment(dedd
3ta=s(bbg
5EFunc(aaaaaa
5TFunc(aaaaa
6ime
2mi(acc
4cals
4nt(ba
6$s(be
4seCEO(b
3o
4cFee
5List(a
5Whitelist(b
5s(d
4te(b
3urringFeeDenum
<Num
<Owner
2nied(b
3ominator
4unce(bc
3yAllowanceProxyAccess(b
4Investor(b
4Proposal(a
2pletable
4oy
6(accb
8ia
8j
7bcclbccbb
7j
6Agent
;|
6BTTS$&(cceaff
7allot(ddd<uint64[2]><bool[2]>
7lockNumber
6Campaign(babaaaaa
7hildren(b
7onsortium(b
9tract
>(a
6DefaultVesting&(ba
6Factory
6GLX
6Ideas(b
6Multi$
6Network(b
8w&
6Project(ac
6Service(db
7tep
:Four
:One
:Three
;wo
6$(baeabcca
<ccecbfb
;&(a
Ef
;s(gh
=hg
6Vesting&(bbaaaf
6_time
6ed(a
8At
:Block
8&s(ba
8Games(a
8On
8Presale&
8SportEvent(a
8@
9okens(a
8_by(d
9forwarders(a
9instances(ba
9registry_instances(ba
7r
8!
9mount
8s(a
6ment
:Block
:Cost
:@
6time
3osit
7(<AccountingLib.Bank storage>ba
9Bank>ba
9ChannelLibrary.Data storage>a
9NettingChannelLibrary.Data storage>a
9PresaleLib.Data storage>
9bytes16[]>l
8a
9a
:a
:edd
9b
9c
8b
9a
:bj
:d
;a
:f
9b
:a
9c
9edd
9gh
9j
9k
9nci
8c
9ajedd
8d
9a
:aba
8e
8hh
72
8(b
73
8(b
74
8(b
7!
>(b
9visor(ba
8mount
=(b
8ndSell(bba
:Withdraw(a
9gelInvestmentEth
7BTC(baad
8alance
>Of(b
9nk
9ttleValue(b
8ond
:us
9ol(b
9th(a
<ba
7CPT(bad
8ell(ba
8ntr
8ommission
9unter
:pon(vLex
?zex
8reator
>s(b
7Dai(a
:For(ab
8elta
8ividend
7ERC20Compatible(baaa
<$(ba
8TH
8nd@(b
8scapedFunds
:row(ba
8th
:(a
;baj
:Pool(a
:er
<(baaa
<=
<For(b
?Refund
?User(b
<ToVault(a
7Fees(a
8iat(bad
8lag(baa
8or(b
:Dividend(a
Bs
:MySelf(a
:User(b
8unds
<(a
7GasCost
7HouseTakeout
7Id
8nPot
9dex(a
7LRC
8ock(b
7NetfRevenue(a
8otifica~(a
7Of(b
9fchain(baa
Cj
8pen
7Payment(b
8ercents
8resale(b
7Rate
8evenue
9ward
7SecretBid(dj
8take(aj
:rt@
9op@
8uccessful_
7To(b
;a
9Exchange(aa
9Lock(d
9SubRound(a
9User(b
9ken(a
=ba
?b
>ba
>ea
@a
>j
<ForUser(bab
<ToUser(bba
>Vault(baa
<s
=(a
?ba
>ba
@a
?ba
Aad
>da
=ForAccount(bbba
9tal(b
8ypes(a
<Counter
7USD(ba
7Vault(aa
7|
=!
7_address
9mount
8fee
8period(a
7e
8d
9(b
;ac
:eb
9CPT(b
9ETH(b
9$(b
>s(b
9Wei(b
7o
8r
9Currency(b
9Limit
9s(a
9y
7s
8(a
9b
:a
:b
9d
8!
8Counter
8Of(b
8Signed(d
9tack(a
8TillNow
8_refunded
9until_jackpot
4t
3recate(b
:fb
9BBFarm(eb
:odySubtype(e
9DefenceSubtype(e
9MeleeSubtype(e
9TurretSubtype(e
9d
:Since
3th
2register
:(d
;g
:Callback(b
:Producer(b
8ra~Date
3ivative$s(a
5eKey(aaa
6MarketCreatorFee?(a
6PayoutDistribu~Hash(hf
6_sha256(ca
2sBan(b
3approve(b
3c
4Of(a
4endOrderList(ead
7antsOfThing(aa
7ing
:Count
4rip~
;(b
<d
;1
;2
;3
;4
;Hash
?History(a
;Update(c
;s(a
3ignatedReporterShowed
BWasCorrect
6s(a
4mls
4redOutcome
7^(a
3poit(a
3t
4Erc20
5thDevs
7Founda~
ADev
4Founda~
4$sAdvisors
;irdrop
;ngel
:Bounties
:Devs
:EarlyInvestors
:Referals
<serve
:Sgt
;it
:Team
4ina~
;!
B20
B80
;Chains(u
;Multisig|
;|
4ory(a
4roy
7(a
9b
9c
8b
9a
8d
8g
7Account
8ll$s
@(b
8ndSend(b
>ToStorageOwner
7BPESO$(ba
8TCP$(ba
8eneficiary(b
8lackFunds(b
8ot(a
:tle
8ucket(d
7Campaign(d
9rd(a
=k
8hannel(b
8oins(ba
>ba
9ntract
8redits(a
9owdsale
7Deed
7Enabled
7Factory
9shion(ak
8reezeFunds(b
9om(b
7IBTC$(ba
8dentifier(d
8tem(a
7Me
8ultipleItems(h
8y$(a
7Ninja(a
7OldCoins(ba
Bc
8wner(ba
7Remaining$s
9wards
7SalesManager(b
8hares(ba
8take(bdaa
7Threshold
8oken
<(a
=ba
<s(a
?b
>ba
=InBnty$&(ba
7Unsold$s
8seless&
7Value(ba
8oxel(eee
7WhenRoundOver
7_time
7contract(b
7edBots
9Ninjas
9$
8r
9s(a
7foreth(a
:produc~(a
:securities(a
7kill
5uct
8(b
8All
8One(d
8ed
8ion!
;&!
2tach
6Controller
@Forever
6ment@
4il
6IndexToApproved(a
=Owner(a
6s
7Of(b
:cc
3ermineBonus(a
9Commissions
9LuckyVoters
9Outcome
@(aaaf
Bpe
Adpp
ApppGa
9Reward(a
9Status
9Winner
?(<uint256[7][]><uint256[7][]>
@bad
8ingWinner
2usETH
4eth
2v
31
4|2Pct
32
4|2Pct
33|2Pct
34|2Pct
3Account
4ddr
7ess
4lloca~
=(ba
3=
3CATDestina~
4hangeMiningReward(a
4ount
4ut
6Percentage
3ETHDestina~
3Fee
6(a
62(a
6=
6Paid
7ercent
6Rate
6s
7Addr
4unds(b
3GiveBlockReward
3Holder
3Index(a
3Limit
3MiningRewardChanges(a
?PerETHBlock
?;(ba
4ultisig
3Owed
3Paid
5yed
4ercent
:age
3Ratio
4esWithdrawal
5ward
9Claimed
3SENSDestina~
4FTDestina~
3Team
7!
7=
7Mint(Fa
7Precent
7$!
4imeLock
4oken@lock
8Withdraw(a
8sHolder
9Ico1
<2
<3
9Percent
9|
3VUPDestina~
3|
9Locked
4ithdraw
;(a
;al(aa
;n
3_alloca~
4fee(a
4multisig
4share
3con2$
3elop
7ReserveAlloca~
>@Lock
>|
7eo
8r
9Account
:ddr
=ess
:lloca~
9Cut
9Fund
=!
=Deposit
=s
9Lock
9MiningPower
9PctX10
?K
:rizeClaim
9Reserve
9Template?Limit
9|
9_BSR
:Coin_Character(c
:EKN
:How_To(c
:;_ownership(b
:add_Exchanges(c
>address_for_A(b
JB(b
>cost_of_transfers(c
>string_B(c
=ress_for_C(b
FD(b
:crowdsale_text(c
;ycle(ba
:edit_name(c
?stake_reward_rate(c
?text_Exchanges_links(c
Damount(c
Dcrowdsale(c
Dfees(c
Dminimum_period(c
Dprice(c
:increase_price(a
Hs(aa
:new_address_for_funds(b
>price(c
>symbol(c
:string_A(c
AC(c
AD(c
Acontract_verified(c
Agolos(c
Asymbol(c
:update_Terms_of_service(c
:voting_info(c
:withdraw_ETH
9fee
9s
:(b
:Alloca~
:Cut
:Key
:Recipient
:$s
@Percent
@|
:|
7ment
;!
<uditPromo~$sPercent
I|
;Fund!
?Unlock@
?s
;LockEnd@
;Percent
;Team$sMinted
<oken
@s
A|
;|
4rify(b
4xit
3ices(d
3ouchProposer(bc
3sHolder
4$s
3teamReserve
2x
3|
1fs
1game
2t
2x=
3&
1iamondAuc~
7IndexToApproved(a
>Owner(a
3ry(l
3s
2ceData(d
4Roll!
4_game(a
2dChangeCollateral(dba
4loseLoan(dbfa
4ommit(ba
3DepositCollateral(dba
3OwnerEndCrowdsale
3PayInterest(dbbbafa
4rove
3Reveal(ba
3Sign(bdedde
3TakeOrder(dba
4radePosi~(dbbaa
3VoteForName(bc
3Win(d
5thdraw(ba
;Collateral(dba
;Profit(dbaa
2e
2fficulty
:AdjustmentPeriod
:=
:ScaleMultiplierLimit
2g(a
3est
3itToNumber(e
5alArts(a
7Signature
5s
4x
2lute(ba
6Power(aa
2minishPool(a
2n
3o$
2p
3(b
2rect(b
6Debit(bb
;Allowance(b
6Investors(b
6Message(ec
7int(ba
:Agent
:Limit
:$s(ba
6PaymentThreshold
6SellRate
:Supply
6TradeAllowed
6_refunds(gh
6ionCount(mmmm
6or
8A
8B
8Jurisdica~
8Lock
<Days
<Until
8Name
9ode
8;ShareRequired
8y(b
2s
3Approve(b
:Users(g
3$(b
3able
7(e
8f
8g
7ATMExchange
8ddress(b
8ffiliate
8lloca~Modifica~sForEver
8mbassadorMode
8piAccess(f
8uthentica~
:oSeller
7BeforeActiva~
9ts
:ting
>_only_Dev
8lackListForever
<list(g
8onus
8urning
7Changing(f
:rity
8oOwner(b
>s(g
9nnectorPurchases(bf
:tactMint(b
;ract
?(f
?Upgradability
<oller(b
:versions(f
7Dona~
?&
7ERC20
:721
8mergencyBlock
7Funding|s(b
7Genera~
7ICO
:SwapLock
8nitialStage
9vestment
A(g
8ssuance
7KYC
7Limit
8ock(f
;Down
9tteryGiveHunt
7Manager(b
:ualEmission(d
=lyBurn$s(f
?Mint$s
8iniSwapLock
:t
;Forever
;ing
>(E
8oving
7POSReward(bf
8ayable
8reminer(bbb
:sale(f
9ivateFund
;ileged
8urchase
>ing
7Redemp~
9fund
=Period
9gulator(b
9servePurchases(bf
:tric~
7Sale
;Agent(b
8ellerCancel(qbbak
9rvice(b
>Provider(bj
9t;able
8takingPeriod
9opping
8uicide
7Ticker
9me
8oken(f
<Issuance
<Minting
<Sale
=wapLock
<Trade(b
?nsfer
Dability
Ds(f
<s(h
=;
8rade
;ing
:nsfer
?(a
?Agreement(a
?Whitelist
?s
@(f
8uneOp~(a
7Updates
7Voting
7WhiteListForever
<list
@(e
Ag
8ithdrawal
7construc~
7d
4greed(a
4llowNorthPoleMinting
8Owner
8Receiver(b
8Sale
8ToLock(b
9ransfer(bf
@BetweenUsers
@s
A(g
ATo(b
4pprove(ba
:All(b
:Investor(b
BsInBulk(g
:SingleUser(b
:ToSell(a
:User(bd
>KYC(b
4vowCrowdsourcers
3bandTo(b
4urse
8(b
:a
8Addr
9uthorizedPayment(a
Is(h
8$(bgh
8ment
<?
<Dura~
<Handler
<Period
<Wei
<s(a
>b
?a
8r
3closureAdded(adddqAqdd
:List(a
4onnectOrderUser(bbab
6tinue
5unt
8(a
9ia
8Block
8Decimal
9ivisor
8End@
8ICO
8Multiplier
8Percent
;iod
9rice
8Rate
<(b
<Ico
<PreIco
8SaleEnd
9tep
8@
8Value
=10
=5
8_period(a
8edDeal?
:IcoStartBlock
=$sSold
;nvestors(b
:MiningDifficulty(b
@Target(b
:^
:Rates(a
:SaleDura~
:$sPerDollar
8s
9(a
5verResources(a
8yBlocksUntilAllowed(a
9Cooldown(a
9^(a
3h(cb
3invest
3like_trackable(b
3missBunner(b
7Operator(b
7Room(a
3own
6(c
7r
3patch
8(bac
8Gains
8To(ba
8er
4ense(b
8$sToInvestor!esByValue(gh
5rseRewards(ba
8$(bgh
4layCard(a
7Nick(b
7String
7_rate
7multisig
4ute
7(aa
7BlockNos(a
7CrowdsourcerCreated(bbbhaf
7Favor
7ID
9ToItem(a
7Status(a
7Transac~(a
7_end
7s(a
6ing
3qualified
<(b
>a
9y(b
:Bid(b
?f
:Hopeful(a
:Team(b
3sBlock(a
4alowFreezing(b
4misPurse(a
4olve(a
8Fund
8$Group(a
8dIndexToApproved(a
3tAgent
5irdrop(ba
4Day
4Presale(ba
4_list_set(gh
4ance_driven
?(b
4ibutedDecoUnits(b
5nctInvestors
4r(ba
5ibute
:(<>agUa
;a
<a
=ba
<b
;b
<a
=a
>a
?aaa
>gh
=gha
<b
=a
=b
=gh
;g
<a
<h
=o
;n
:10MT(g
>I(g
;BTCO(g
:21ST(ga
:55M(g
:A
;IC(ga
;LC$
BBatch(a
;RT$
BBatch(a
;dviserBounty(baf
;irdrop(ga
Ch
AMulti(gh
FPresale(ghh
;ll$s
CToContributor
;mount
@(ga
@s(gh
:BTCB(ag
=G(ag
<R(g
;alanceToInvestors
;onus(g
?$s
E(b
Ga
EByList(g
?es
A(a
<oking(a
<unty
@(ba
Agh
@$s(ba
Ggh
;ulk(bgh
:CDD(gaa
;HENDE(g
;OMIKETCOIN(ga
;RTM(gaa
;allback(aa
Dg
;oins
?(baaa
<ntest
;rowdsale$s(ba
La
;ustomSaleProceeds(aa
:DEXT(gaa
;ividends
C(ba
COn;From(bba
;ona~$s
:EBTC(g
;DNR(g
;GOX(g
;LTC(g
>Large(g
>Medium(g
>Small(g
;PAL(g
;THOS(ga
=P(g
;arlyBacker$s(ba
=nings
;byte(ga
Abaaa
?ForEBYTE(g
Ibaa
CTH(g
Gaaa
;th(aa
=er(g
:FAITH(gaa
;UD(gaa
=D(gaa
;ees(aa
;ixed(ga
;orBountiesAndAdvisors
=FoundersAndTeam
<under$s(ba
AsRewards(ghh
:GLAU(gaa
;REEN(gaa
;o$s(b
:HNC(gaa
:ICO$s(b
Ea
;QT$
BBatch(a
;ncomeEther
<itialFunds
<vestorsFee(aa
C$s(ba
:JST(gaa
;ackpot(a
:LCASH(gaa
<D(ga
<WP(ga
Aa
;RN(ga
=X(ga
;TCW(ga
;enderBot(gaa
;ist(b
;ottery
:MAGGIE(gaa
;any$s(g
<rketingShares
;nyAfterSwap(ba
;ultiple(gh
:NIM(gaa
:Owned$sFromOther&s(bba
>rship
:PBIT(gaa
;CY(gaa
;artner$s
;reBuyersRewards(gh
=ICO$s(gh
=SoldShares
=sale(b
Bgh
A$s(ba
Hgh
<izes
<ofits(a
;uppyCoinCLarge(g
CMedium(g
CSmall(g
:Registra~Bonus(b
<serveSupply(ab
Ad$s
H(a
Iba
<venue(aee
<ward
@(ba
Ca
@s(g
:SMILE(ga
<L(ga
;RNT(ga
;SENTE(g
;aleProceeds(a
;uccessfulCampaignEth(a
LFunds(a
<pply
@(ba
:TCASH(g
;EST(g
;KLN(ga
;eam
>$s
D(ba
;heSame?Of$s(ga
;ime
>locked$s(ba
Ma
Kghhh
;o!esAnd?s(gh
=lternate!(bb
<Dev(ba
<Found(ba
<ken(ag
@baa
@ga
Ah
?Sale(aaaa
CJackpot(aa
?To!(bbba
HesAnd?s(bbgh
TWithoutHost(bgh
?s
@(a
Ba
Ca
Ab
Ba
Cllff
Bbbbbb
Bgh
Ag
BN
Ba
Bh
@2(gh
@AfterIcoByOwner
@For(b
@PreIco(a
@Range(aa
@ToAllUsers
CpprovedUsers
BContributor(aa
MByIndex(a
BRank(ha
:VES(gaa
;M(gaa
;SN(ga
;alue
<riable(gh
:WinnerPool(ca
>ings
<thLockup(baaa
Ia
>;From(bbgh
:XAIN(gaa
;YZ(ga
:_100_tokens_to_many(g
;for_founders
;private_sale_fund(baa
;token
:d
;(b
;?
<utonomousExchange
;=s(b
<onusStakes
=untyStakes
ATotal
;Count
;First(b
<undariaStakes
;Ore=Mapping(be
;Reserved$sDestina~sLen
;SaleStakes
<econd(b
;TeamStakes
<oken
@s
A?
ATwei
;_bounty
<team
:eBTG(g
<itcoinCashLarge(g
FMedium(g
FSmall(g
:s(a
9ion
<(b
=g
>a
>baaaaa
<Active
=ddress
Ces(a
<Cap
=losed
=omplete
>ntract
=ut
<Date
=eposits(a
<EntryCount
<Finished
Bing
>xed
<List(a
<Minimum
?ter
<Of$s
=ne(b
<Percent
=reIcoCount
<Realized
<Start
=upply
<Three(b
@sholds(a
=okens
=wo(b
<s(a
<teamFinished
<userFinished
9or
;!
;Count
;|
;_address
;s(b
<List(a
6ct0xNetwork$
8&!
8Limit
8ToBuildings(aa
CCount(a
8s(a
9Core
5oyBuyer$(a
7Issuer$(a
7$(a
=b
5uctVault
=(f
6st
8(b
:aj
2v(aa
310(ae
3256_128By256(aaa
3Amt
3Base
3CardIndexToApproved(a
>Owner(a
7RateToIndex(a
4ut
6Admin
6Master
6Pool
3ForEthertoteDevelopment|
?Liquidator|
6^
6SellBack
6Tank
7eamEth&
7ransfer
3MasterAmt
4ultiplier
3PoolAmt
3Rate
3bonus
3ertDividendsToBankroll
4st
6(a
7b
8a
6ETH
6Fee
3holder
3iRate
4de(aa
6Safely(aa
6UpReward(a
8Winnings(baa
6dBy(aa
6nd
8(b
8Addr
<ess
?(b
8&
:unt
9utPercentage
9ycle@
8DecreaseFactor
9istribu~
DDura~
DEnd@
DPool
DStart@
:visor
8End@
8Fee_
9und
<!
8Manager!
8ParentsPercentage
:thways
@(ba
:yment
?s(b
;outs(a
9ercentage
;iod
8Rate
9ecentBuyersPercentage
NDecreaseFactor
:gistra~
:wards(b
9oundsBeforeFoundersStakeUnlock
8Shares(b
8Winners_(a
8_amount
8commission
8info
8s
9(a
:b
;e
:f
9Acc(b
<ount
:mount(b
9Blocks
:uffer
9Calculated
:ollected
9Distributor
9ForUser(b
9GetPaid(a
9Index
9Of(b
:wing(<Holder>
?b
9PaidPerShare
E(b
;yed
>Index
:erShare
9RightsOf(b
:ound
9Sum
9Total
9_share
7tSent(aba
6r
6s(aa
4sible_units
6on(aa
5or
7s(a
3map(b
3paid
3s(a
4forall
1ml$
3wallet
1na1(a
32(a
33(a
34(a
35(a
36(a
3Exist(l
3Mixer
3s(a
2nHoldingMultisig
3$
2srr(d
1oActivateSale(b
3irDrop(g
;a
<a
;ha
5drop(bga
<h
:gh
92(bga
2=
9(b
9For(b
3et(hhha
3lock&
3ondBonus;(Obb
3urn(ba<BurningType>
6From&(ba
2Call(Odb
7Pdb
7a
7d
4ncelAll
3heckSendBounds
3oinage
9(ghaaa
4mmunityMinting(ba
3rowdsaleMinting(ba
Ea
3ustomAirdrop(bgh
?2(bgh
2Deposit(ba
4veloperGrant
3istribu~(aba
>Range(agh
2Exchange(a
2Finalize
:Sale(aa
3reeExtension(d
2InitialDistribu~(bbb
9Report(hf
3ssueDividend
7$s(ba
2Keccak256(a
2Lockdown
2ManualTrade(bba
3elt(aa
3igra~(aa
4nt(a
2NotAutoRefund(b
2Pause
4yment(a
:b
9s
5out
8(a
3reAlloca~s
5mine
5saleMinting(ba
Ca
3urchase
:For(b
2Quest(a
2Random(l
3ebuy
7To(b
2SendBounds(d
6Profits(b
4tCanCreateGrants(bf
3ingleMigra~(a
3omething
3tart
5teChanges
3uicide
3warm(ba
2TeamMinting
=(b
3rade(bba
7ofCollateral(bbaaaa
5nsfer(ba
<ba
:Other(bbba
4iggerJackpot
2Unpause
3pgrade(b
2Vote(aa
2Withdraw
:al(a
2adores(a
2cCount
3Hash
3Index
3s(a
3umentIPFSHash
9t(nloccc
8s(a
9Count
9Ids
<(a
2es!OwnSpinner(ba
5sset$Exist(b
4Own(db
7Base(db
7EthHandle(db
4ProofExist(d
4ReferralCodeValid(c
2ftManager
2gCore
3Fight
3IndexToApproved(a
3e
4!
4xSupply
3gyIdToApproved(a
9Divs(a
9Owner(a
2it(b
2lRate
3larCost
6Multiplier
6PerEtherRatio
7rice
6Raised
6ToEtherRatio
6sForEther
7_per_kilo_ether
2mainOwner(c
6^
6s(ud
2nGameGiftLine@
3acionCruzRoja
8Teleton
4te
6(a
7b
8a
8bs
7c
7d
8dj
7edd
7ll
9ba
6!(a
7ndCreateGiver(bl
Gba
7s(b
8WithChecksum(bs
7uthor
6Divs
6ETH
6For(b
7unds
6Jackpot
6Map(b
6P3D
6Skin(<uint128[]>gGh
;nb
6ToDev
8FeePool(a
8Lottery
:vers(d
8Pool
9roject(k
8ken(b
;s(b
6Unicorns(a
6_step
6d
7(b
7?
5ion
8(da
8!
9mount
>InWei
C(b
8Boxes(d
8Closed
9ount
8Map
;(b
9ultiplier
8Num
8Phase
8Rate
9eceiver
@Locked
8Sum
8To(b
8UnlockTs
8|
8s
9(a
:b
:d
;a
9!
9Count
9Ended@
9From(b
9Receiver_
9Start@
5orBonus(a
7Reward
3e
4(b
4Op~s
3keyInvested(b
6Name(b
6Ranking(a
6sEligibleForFees
3or
5(b
5Count
5List
9(a
5s
6(a
3tPanic
4SellRock(a
2omsday
2t
2uble
6(bdea
7dea
6=s(b
7onus(b
;Array(g
6ClaimSegmentSlash(aaaa
G?
6Down(a
6Entry^
6Send(ab
6XY(aa
6_blind_sha256(cbb
6your5
2wnBetRecords(a
4Payment
4TheDrain
5ick(aa
9b
:a
4doot(a
4gradeToBasic(d
4load
4s(b
5tream
4time
1rWinChances(a
2aftNewCard
<WithReferrer(b
3gon
6=(b
6GirlLotteryNumber
A^
6Handler(a
6Index(a
;ToApproved(a
=Owner(a
6Name(a
6Stats(a
6Treasure$
6s(a
7Stats&
3in
5(a
5AUC(a
5&
5ERC20(b
6TH
6ther
5Game(ddbaaaaaaaaaa
5Me(a
5Remaining$
C(b
Cs
5SMS
6tack(dd
7rayEther(a
:$s(ba
5$
:(ba
<b
:s
;(b
5Wei
5_alltokens(ba
6block
5ing
3w
4(a
6a
5ba
6p
5da
5ee
5ied
4Coach(ab
6lors(hhb
4DailyWinner
4ETH(a
5ther
4Fee
5ortune
4HeroLottery(bf
4ItemLottery(ba
4Lottery(c
4Now
5umbers(a
4Period
5layer(b
5ool(a
6t(cc
8dd
4Raffle(a
6ndomItem(ca
>Winner
:UnitWinner
:Winner
4SecondaryWinners
4TertiaryAWinners(a
<BWinners(a
<CWinners(a
<DWinners(a
5icketCount
5oHand(aia
4WeeklyWinner
5inner(a
:s(aaa
4_number
4ingIdToCollectibles(a
7No
2ct
2eam$
2ink(a
5IdToApproved(a
9Owner(a
3p
4?
4Me
4Rate
3ve
5rCount
6s(a
2op
4(ba
7aaaag
6bayyyg
6ga
7h
5d
5g
6a
6h
4!
5mount
4Coins(ga
9Multi(gh
9Single(ga
6unt
4Enabled
6d
4ManualState
4Nectar(g
<h
5umber
4Offset
4Start
5upply
4$(g
9V2(g
4Unit^
4Votes(g
4|
4able
4s(ga
2pCrowdsaleRecorded=
3$
3s$
3u$
2unkness
1spRegistry
1t
2End
2Start
2eamVaultAddr1
>2
>3
>4
2h
3Shop=(b
3Teller=(b
2rade(beehgo
1ubi
2eDate
3l(b
4AnotherCovfefe(aa
2mp=(b
4Free$s(b
4Out
4divs
2ngeonDifficulty
7PlayerCount(a
8repara~@
7Requirements(a
7$&
7s(a
2plicate
2ra~
8(d
8BetweenRewardMints
8CrowdSale
8InBlocks
:Days
:Minutes
8OfLock
:State(a
8PhaseArray(a
=Index
9reSale
8Seconds
?Ico
8Voting
8h
8s(b
2st
4ToEther^
2tchAuc~
<ToBuy
>Craft
1vip!
1xfOpen
1ynamic
7Ceiling
4sty
0e
1(b
193&
1GoldchainStart
1Refund(bac
1Send$s(ba
1T(baa
2okensToSend(ba
1_Purchase(ba
2Withdraw(aaa
1achAirDrop?
4Candy
4Issued?
4PUSTprice
4UnfreezeValue
6lockCounts
5serWeight
2rlier
6stNextSettlement@stamp
8_buy_time
4yAccess(b
6lloca~
6ngelSales(ba
5BackerList
?(a
;Supply
ARemaining
;s
<(a
<?Left
<Pool!
<|
6irdCap
9Dura~
9Investments(b
9MaxPerPerson
:inPerPerson
9^
9$Rate
9s(a
:!
:Supply
5Community!
>Supply
7ntribList
@(a
<Share
5ExchangeRate
5InitProjectSupply
7vestment(ba
;orSupply
=$Raised
=|
=s
>Bonus
>Minted$s
5PariticipantWei^
8ticipantWhitelist
I(b
6resaleEDUSupply
6urchaseClosedAt
=$?
=d?By(b
=rs(a
=s
>(a
>Loaded
5ReserveBegin@
8olve(dadj
?j
5Sponsor
6tageLasts
:Setting
6uccess
<Block
<@stamp
5@Lock
5UserQuotas(b
5|
6hitelistBegin@
6ithdrawalFeePct
5_bird_minimal
6supporters_distribu~(ga
5bird
9Ended
9_coins
:percentage
6onus
3n(b
4ed
6EthWei
6Funds
6Of(b
4ings
8(b
8Of(b
:Player
8PerShare
2syCommit(aaa
4Mine$
1byte=
5$
1c
2add(aaaa
:aa
2cVerify(dedd
2dsaVerify(bjedd
2mul(aaa
9a
5Verify(aaaaa
2oBuilder
3FundSupply
7ingSupply
3Lock13
723
3Supply
9!
4ystem!
9Fund
9|
3nReserveAlloca~
;@Lock
;|
4VestingStage
@s
3systemAddr"

end Listing
end EvmFlow
