/-!
# Known signatures, part J
-/

namespace EvmFlow
namespace Listing

/-- Known signatures from `isSYNVault` to `mintingFoundersFinish`. -/
def partJ : String :=
"0isSYNVault
3ale
6Active
7uc~
6ClockAuc~
BERC20
BStorage
7omplete
6Ended
6Live
6Market
6On
7pen
7ver
6Paused
6Running
6r(b
6sManager
4nctuary
5e
6(b
3cheduled
6meRegistered(bb
3ealed
4condLock@End
8StageFinalized
=$sMinted
8ary(a
;Operator(b
5ured
7ity$(b
4llOpen
6Possible
6able
6er(b
6ing
9Now
4nderBiometricLocked
4rvice(b
:d
9Account
9sta~
4t
5(b
5Fund
5Team|
5tling(d
5upMode
7Running
3hareholder(b
4op(b
4utDown
6down
3igned(bdedd
8By(b
:Alex
<l
;ndrey
:Eugene
:Toly
8Up(b
7r(b
4ringClockAuc~
DStorage
3oftCapGoalReached
9Hit
9Reached
6capOn
4leout
5ved
8(<uint8[9][6]>
7r(b
3paceExist(a
7shipUpgradeAllowed(Dke
5wningAllowed(ab
4ecial(a
5nder(b
6tCustomerTxPaymentForMCW(bd
7TxPaymentForMCW(d
4litable
3spRegistered(b
3takingFeed(b
9Period
5rt
7Game
7ed
5te(ae
4bMintedForStaEx
4op
6ed
6ped
7ingIcoOnHardCap
5reActive(a
7Set(c
4rategy
3ubscribed(b
9p~Product(a
4cceed(e
7ss
9DoneState
9Over
9ful
<Ico
4itableGen(aa
6ed(ee
4per&(b
7Owner(b
7user(b
5plier(b
6orted(ba
=f
4spended
3wapDone
3ynthesizeAllowed
2TakePermitted(aabbaa
4nk(b
3eam(a
7b
6LockInPeriodOverIfTeam!(b
6Member(b
6OneMember(b
6TwoMember(b
6VestingInitiated
4ller(b
4n(e
4rmOver
6inated
4sting
9(b
3he&
5reABlockAtCoordinates(kk
8CoinAtCoordinates(kk
8nOnGoingProposal
4isHardforkedVersion
6PreforkVersion
7uritanicalVersion
3ier1(b
62(b
6Joined(b
4leLive(ke
4meExpired
6Over
6Vault
6out
3oOffChain!(b
Ces(g
4ken
7(b
7Accepted(b
8vailable(a
7&
7Escapable(b
8xchange
7InList(b
7Locked(a
7Offered$(b
8wner(ab
=b
7PairWhitelisted(bb
7RateCalculated
8egistered(b
ABySymbol(c
7Sale
;Running
;$(b
8upported(b
7Tracked(b
:nsferLocked
?able
7Upgraded(d
>r
8ser(b
7Verified(b
7ized
7sPreIcoDistributed
4urUnfreezed(a
6nament
<(b
3radable
:(k
:FciInSession
6eSupported(bba
7able
5iner(b
5nsPaused
7ac~AlreadySettled(bd
=Pending
=Successful(i
=sAllowed
7ferAgent(b
;llowed(b
Ca
Cba
Dbba
;uthorized(bb
:Disabled(a
:Enable
@d
:Locked
:Manager(b
:Shipment
:Valid(bba
:able
>(ba
@ba
:edUser(b
8ormAgent
4easureBox(b
:r(b
4usted(b
;b
9By(ab
9&(b
A!(b
4yedFinishCrowdsale
3urnDataSaved
3xExist(d
3ypeSpecial(a
2UIntPrivate
7ublic
3id(c
3nLockedAccount(b
4derLimit(a
4freezed(a
6ozen(b
:Account(b
4icorn&(b
4known(b
4locked
:(b
<a
4owned(a
4restricted
3pcoin
4datable
7eAuthorized(ba
4gradable
<(bc
8eAgent
:llowed
9Finished
9Interface
9Target
3se&Freeze
5r(b
7d
6Banned
7lacklisted
A(b
6EnabledFor&(bb
6InBlackList(b
8Group(db
6KYCVerified(b
6Member(b
6OwnNovas(bh
6PolicyAccepted
7roduct(dd
6Registered(b
7oot(b
6Withdrawal@
3tilityHolder(b
2VIP(b
3alid
7(dcbab
7AccessMessage(bedd
8dapter(b
8irDropForAll
AIndividual
8uc~(a
9thority(ba
7Bet(a
;eaa
8icoin!Prefix(j
7Cap(aa
8hainyJson(c
8omposi~(ha
9ntributor!(b
BId(a
8ustomer(b
?TxPaymentForKWh(bd
KMCW(bd
7Genera~(e
7HashType(e
7Index(aa
8ssuance(aaaa
7Kyc(b
7MatingPair(aa
8ember(b
7NodalblockJson(c
:e(a
7Owner(b
7Plugin(b
8rice(aa
9oof(dc
8ublicKey(aa
9rchase(a
7Service(d
8ignature(bdedd
Bttnaedd
Adedd
9ze(a
7Team(h
8icket(be
8rader!(b
8xPaymentForKWh(d
CMCW(d
7UnbondingLock(ba
8ser
;(b
7ated(b
9or(b
4ria~
3erfied
5ificator(b
8ed(b
<a
:!(bb
:Code(bd
:User(b
9r(b
4stingAdmin(b
9Revoked
9Set(b
:tarted
3otable(d
5eOngoing
6d
7(ba
5ing
8Active
8PhaseOver
9repare
3ulnerable(l0
2|FromUser(<>c
Aac
8Locked_Receive(b
?Send(b
3hiteList(b
;ed
=(b
>d
=!(b
>ndAffiliate(b
7list(b
;Agent(b
;On
;ed
=(b
?a
?b
>d
=!(b
Ededd
=Investor(b
=Presale(b
3inner(b
6ingBet(<Bet>a
9Driver(ab
4thdrawAllowed
:Enabled
:able
:nSubRoundNLF(aba
6inIEO
5ness(b
3oidRegistred(b
4rkFailState
6er(b
8PoolRegistered(b
6flowState
6ing
5ldCupTeam(b
5se^(ead
2YesWinning
2_active
4live
3banned(b
4tc
3claim_period(a
4ontract(b
4reator(b
3empty
3finalized
3max_goal_reached
4in_goal_reached
3name_used(d
3open
4wned(a
7r(b
3passcode_correct(ad
4roposal_supported
4urchase_allowed
3signed
4lot_in_bid(eee
4tarted_bonuses
;payouts
4uccess
3transfer_allowed
3verified
2bit(aa
3lacklistedAccount(b
2deposit
2frozenOf(b
2packagesaleClosed
=Setup
2sua(a
5ble
5nce
8Current=Sum(b
8Data(b
9raft(b
8Enabled
8Finished
8LastAverage=(b
<Modified(b
8Ratio
4e
5(a
7abbab
8gh
6b
7a
8a
8c
9c
8ii
7l
6ga
7h
5?
6ndActivateBounty(bacabfba
@$Bounty(bacabfbab
8Freeze(baa
8Lock(ba
6sset(daccef
Ab
:To!(daccefb
6tIco(baa
5BlockReward
6ounty(ba
>cabfb
5Card(aaa
=a
9s(aaa
6enturion(b
7rt(aj
9ificate(ccc
6laimOwnership(b
6ofounders$sIfPossible
7in(ba
<a
9s(ab
7ntract!
5Date
6ividend
=Reward
CBips
6uringICO(ba
5ExchangeRate(bbbaaa
5FTT(ba
6irstRound$
6orEuro(a
5Hardcap$(bba
5IOU(cab
6coCoins(ba
6ndex
8ividual$s(ba
5LetterOfCredit(aaa
6ist(bd
6oan(ba
5Map(b
7xNomins
6edal(b
5New(a
8Coins(ba
@c
8HeldCoins(ba
8Series
6omins(a
5Of$s
5PRETDE$s(b
6atrons(ba
6refered$s(aa
7ice
5RateDecDuringICO
6eceipts(ba
7funds(g
7serve$(a
Bba
8olved(dc
5Security$s(baa
7rtificate(bb
6oftcap$(bba
6uperMetal(ba
5Team$s
6ickets(baa
6o(ba
8da
7Many(gh
7Reserve(a
7ken
:(a
<a
=a
>a
;b
<a
<baaa
@a
:AndApprove(aab
Fb
=;(aab
Gb
:To!(ba
Fa
<Guaranteed!(baj
:s
;(a
=a
>a
=c
<b
=a
>af
>e
<gh
<h
;External(ba
;ForAssets(a
<romOtherCurrency(ba
;Multi(gh
@ple(hh
;Presale(ba
Cg
;Sale(ba
@g
;WithCustomBonus(baaa
?Locking(baael
6ranche(a
5WithExternalFounda~(bad
5amount
5d
6(a
7b
6Bounty
7yStabilityBoard
6Count
6Externally$s
6FromOtherCurrencies
6Num
6SupplyRatio
6ToDate
8ken=
;s
<(b
<?
<ForCommand
<InRound(l
5r
6(b
6!
6DateMinutes
7ecimals
7istributedUnits
6Jurisdic~
6Name
6ReservedMaximumPercentage
6Symbol
6$Name
6s(b
5s(a
5tender(baa
4ingBody
7$Owner
2transferAllowed
2validOrg(b
1tDevAddr
2em
423IndexToApproved(a
=Owner(a
4At(a
4=(b
4Count
4Exists(a
4HistoryOf(a
=Player(ab
4Id
6ToApprovedRecipient(a
8CelebId(a
8Owner(a
8^(a
8TraitValues(aa
5ndexToApproved(a
;Owner(a
;^(ee
4KindCount
4Lottery
4Name!(a
8Of(a
5um
4Of(a
5wner(da
4Return
4ToOwner(a
5ransfer(b
<red(dabb
5ype
4s(1
6a
7a
6d
5ByName(c
5Count
:s
5ForSaleCount
<Limit(aa
5List(a
5OfOwner(b
6wned(b
5PerPage
5Range(aa
3rate(c
7Table(aa
8hroughSwarm(ba
Fa
8urn(k
7_get(<IterableMapping.itmap storage>a
8next(<IterableMapping.itmap storage>a
8start(<IterableMapping.itmap storage>
8valid(<IterableMapping.itmap storage>a
6ion
6or(1
2o
2sLikeChicago
1vote(f
1wtfundtokens
0jackPotA
7B
8estHash
7C
7Funds
7Percents
4_max
5nonce
5pot
5winner
4pot
7!
8mount
7=
8lance
7ClaimedForCountry(a
8ompleted
9ndi~Percent
:tract
9unt
7Difficulty
7Frac~
7Guard(a
7Hit
7Large
9stPayout
;Qualified
;Winner
8evel
7Medium
8inimum?
7OfHouseEdge
7Paused
8ersent
8layer(a
8ropor~
7RoundNumber(a
7Size
8mall
7$
<EthRate
<LoseRewardRate
<WinRewardRate
7Users(a
7WinCount
:Percent
7rate
7s
4s(b
2dd(aaaaaa
3e=(b
4Produc~Snapshots(ba
2il(b
4?Of(b
2k
2n
3Pot_
1crUsdRate
1decompose(aaa
2ouble(aaa
1ester
6AutomaticCollectFee
6Bank
2xp(aaa
1iGouTotal=
2edians_jiedianDate(b
9locked(b
2ngZhiManager
4le&
6sInfo(a
7OnSale(a
2shis_jishiDate(b
7locked(b
1mul(aaaa
1ob(ccaa
3Completed(qbbaa
3Post
3Started(qbbaa
6tus(a
3s(a
2ckeyFS(a
7orSale(aa
6HLength(a
7air(a
6Index^(a
6Level(b
6NotForSale(a
6Pr(a
6Skin(a
2in
4(C<slice[]>
5a
5b
6ba
5dd
4Arena
5sBroker
7uyer
4Bounty(b
4CarveUpTen(a
5ommunity(b
6unt
4Delta
4Game
8(a
:a
;d
:e
;e
9b
8From=(a
5reatHarmon(cc
6oupAndInvest(ib
4Lottery
4Main
6nual(b<uint48>
6tch(aac
4Pool(e
6t
5re
7Sale(ba
4RaceAndFinish(aa
4SinceOf(a
5qr(a
4Team(aa
:baa
5ournament(a
4WhiteList(b
5ithCandy(baa
4_game(a
5private_room(d
4ed(b
6Crowdsale(a
?s(a
@Len
CMax
4withreferral(b
2ker!
2ule
2y
3$
8&
3so|
1pMinBet
2Percentage
<Divisor
2yc
1recover_y(aa
1sub(aaaaaa
1test
1udge(af
8d
5!
5EnableFor;(ba
5Fake$(a
>And;(ab
2icyBonus
2mp(a
4In
2rors(b
2st10Send
450Send
4SendDona~s
1ypcBonus
0k
1=
1MaxStake
2inStake
1Rate
1Unit
1airosOwner
2liSupply
2ppa
2rmavoters(a
1cck256str(c
:add(cb
=add(cbb
:str(cc
1dtFundDeposit
1eccak(C
7bba
6_f(<uint[25]>
2eCrytoken
3pEth
4aliveBlock
4er
4pet$
2k
3(b
2y
3!
3CertificateValidUntil(b
3EmployeeAlloca~
;sAllocatedFund
Cion
3Founda~
3Locked
3Of(dd
3^
3Valida~s(b
6ueStorage
3basePubURL(c
3s(a
5b
1gtHolderCategory
3$
1ickCommitteeVote(b
4StartICO(ba
9MiniICO(b
4TheCoin
4city|
4off
7QuorumPercent
2ll
4(<NettingChannelLibrary.Data storage>
5b
5c
5d
41
42
4Aborted
5dminOnly
5llXAITActivity
5ndRefund
6imal(ek
;k
4=
;(a
5oard(k
9Proposal(ab
6unty(a
4Coin
6ntract
<(a
=b
4Divident&(a
5ragon(a
:Death&(baa
4Feed
5rost
4Me
5onster(ke
4OnUnsupportedFork
4Pay
5oll
4This&
5ile(ke
5o(bd
6ken
9s
:ForGPower
6talSupply
5ransac~(ddcc
4_switch
4me
4switch
4ya
2msCreated
4OnAuc~
2n
3dCount
3g
4AutomaticCollectFee
4Bank
5lock
4&
6st
4Gladiator
=Founder
4Spirit
4domCrea~FeeInFinney
BWei
7Factory
7Name
7Transac~s(a
7s(a
8ByNumber(a
4sMessage
2ssBTCCallback(aa
2tten&
6Talk
6sDroppedToTheWorld
7Issued
7RemainingForSale
@ToDrop
7Sold
4ies(a
7&
4yAc~s(aa
5Core!
5Data
5Gym
5IdToApproved(a
9Dead(a
:ivs(a
9Owner(a
6ndexToApproved(a
<Owner(a
1kk
1nc
3PerETHRate
2ight!
6Equity
2ockoutTeam(aa
3wn(b
5!(b
5Funders(b
5Reserved
6oleNames(dd
2uckReward
1oef
2mission
2th
1rs
3Usd
1scApprove(bac
3BatchBurnWhenMoveToMainnet(ghc
@UseInSidechain(ghc
8SellByOtherCoin(bghahc
8;ToBounty(bghahc
BEcosystem(bghahc
4urnFrom(bac
7WhenMoveToMainnet(bac
;UseInSidechain(bac
3DecreaseApproval(bac
3IncreaseApproval(bac
3MintTo(bac
3Sell(bbac
3;(bac
;From(bbac
1tc!
:IsSet
1unToOwner(a
3s(a
1whFund
1yber
5&
5Hash
5MultiSig|
5Network
<&
<Proxy&
5Reserve
2c
3(b
3!
:es(b
5min
4pprove(b
:d(b
3Certifier
4onfirmer
3Done(b
3Hashes(a
3Level
3Manager
:|
3Passed(bb
4ending(b
3Refuse(b
5gisteredContributors(b
5quired
;(b
3Signers(a
4tatus(b
3Valid
8ated(a
4erifica~(bba
9ed(b
;BonusBps
8y(b
;f
3|
3list(b
0l
1ab!
2cksFunds
2d(d
2gDefrost
2mboIndexToApproved(a
<Owner(a
5Presale!
5s(a
6BuildCount
6TuneCount
3denTau
2ndClaim
4Data(mm
4Management
5ultiplier(b
4Of(b
4^Candy
:urrent
9Previous
9Wei
4ingDiscount_ppc
4markOwnershipCount(b
8PoolTotal
9riceStepDenominator
ANumerator
8Size
8ToApproved(a
:Owner(a
8s(a
4s(a
6b
5Of(b
5Sold
3guage
2pFinish@(a
3Start@(a
3Totals(a
2rge
5CapDelay
8LimitOf(b
6onstant
8tribPercentage
<Threshold
7unt
5Rate
5Size
5stDona~
:or
7Penis
<Owner
8ro
7Retro
7Stake
2st
4(<!List.Data storage>
=SetLib.!Set storage>
6Data>
410
4AccountNum
6~
:s(a
8veTransac~(b
;s
9ity(b
7or(d
5ddYear
7ress
6just
5llowancePayment@stamp
5mountSent
5rtworkSale^s(a
5ssigned
5verage=(b
4BetBlockNumber
7User
5id?
7Block
7ID
7@
7der
5lock
9(d
9Claimed
9InterestPaid(b
9Number
?InRound
9Rewarded
9_a0
<Hash_uint256
;1
<0
=Hash_uint256
<1
=Hash_uint256
<2
=Hash_uint256
<3
=Hash_uint256
<4
=Hash_uint256
<5
=Hash_uint256
<6
=Hash_uint256
<7
=Hash_uint256
<8
=Hash_uint256
<9
=Hash_uint256
<Hash_uint256
;2
<Hash_uint256
;3
<Hash_uint256
;4
<Hash_uint256
;5
<Hash_uint256
;6
<Hash_uint256
;7
<Hash_uint256
;8
<Hash_uint256
;9
<Hash_uint256
:f0
<Hash_uint256
;1
<0
=Hash_uint256
<1
=Hash_uint256
<2
=Hash_uint256
<3
=Hash_uint256
<4
=Hash_uint256
<5
=Hash_uint256
<6
=Hash_uint256
<7
=Hash_uint256
<8
=Hash_uint256
<9
=Hash_uint256
<Hash_uint256
;2
<Hash_uint256
;3
<Hash_uint256
;4
<Hash_uint256
;5
<Hash_uint256
;6
<Hash_uint256
;7
<Hash_uint256
;8
<Hash_uint256
;9
<Hash_uint256
:v0
<Hash_uint256
;1
<0
=Hash_uint256
<1
=Hash_uint256
<2
=Hash_uint256
<3
=Hash_uint256
<4
=Hash_uint256
<5
=Hash_uint256
<6
=Hash_uint256
<7
=Hash_uint256
<8
=Hash_uint256
<9
=Hash_uint256
<Hash_uint256
;2
<Hash_uint256
;3
<Hash_uint256
;4
<Hash_uint256
;5
<Hash_uint256
;6
<Hash_uint256
;7
<Hash_uint256
;8
<Hash_uint256
;9
<Hash_uint256
5onusMultiplier
9Number
5ucket
6rn
6yer(a
4CWCETH
5alculated$
<ionReward@
7l!
8Block
=(b
8PUST
8@(b
8stopPreICO
6mpaignID
5hance(bb
:Enabled
7rge(b
6eckBlockNo
9ed$
6ip@(b
5itizenPaid
5laimBlock
9ed
;(b
;At(b
;Round(b
9s(b
5ollect(b
;ion
6mpletedMigra~
6nsola~Prize(a
7tract
6unt!
5reatedGame
7ditorPayedOut
6owdsale
4DETCWC
5ao
6y
7Paid
5eploy(b
7osit
;Date
;@
?s(b
;or
=?
5ifficultyAdjustmentEthereumBlock
6sbursement
7tributed?
6videReward@
:ndIncreaseDate
<s(b
5onor
5rawTs
4Edi~Of(a
5fficientBlockNumber
5pochBlock
9TX
5rup~@stamp
5vent(b
6idence
<Check
4FactChangeValue
5eePeriodStart@
7sCollected
6ll
5inish
6redFund(e
9Winner(e
?Reward(e
5ortnightPayed(b
5reeBlock
8zeSeq(e
5ueledFundingID
6nd
8er
4Game(b
8Id
6teway
5en0Sale^s(a
5ooProduc~Update(b
5rantedIndex
4Harvest(b
6tch(b
9^(b
5ello
5oldingTax
6tPotatoHolder
6ur
4ID
5d
6Gen0
5mageId
5ndex
6fla~Update
6it@stamp
8ializedRound
6terestCycle
6vest(b
:ment@
:orPaidOut(a
<sProfit
CDay
CSum
5ssuance
8ed@(b
4JackpotPayout
;Round
6deProduc~Update(b
8Save@(b
4Kebab(b
5ickoffDate
?Buffer
6ng
4LapId
5ocking@
6veLetter
4MinedOn
8rSale^s(a
9alUpdate@
7ingBlock
:@
7t
8(b
8@
8ed@stamp(b
;okens
8ing?
;@
5onth
6vement(b
4Name(b
5egativeVoting
6wInterest
4OracleUpdate
5wner
9sAc~(b
4Pause@
6yOut
7dayTS
7erOverflow
7outIndex
:@
:s(a
5eriodChange
5ing
8(b
5lay@stamp
8ed
9r
:Paid
5ointsPer$(b
6t
5resser
6ice
9Check
9Feed
9Of(a
9Paid
9SetDate
9Update
?@
Cstamp
7zeGiven
6ocessedDay
=VaultId
>oteIdByProposal(a
7fit;@stamp
7of
5urchase
<^
<Tick
>me
@stamp
4Random
6te
5eading(b
6ceivedMessage(b
6frralsVault_
7undedIndex
6gionId
6lease
;@
6para~
6ward?
:EthBlockNumber
:To
:s
;(b
5ound
9End@stamp
9LengthUpdateRound
EStartBlock
4SaleDate
<(a
8InHGT
8^s(a
8@stamp
6ve@(b
5cheduledTopUp
6rap^s(a
5ettlementStarted@stamp
5ignedBlockHash
?Number
:@stamp
6ngleSale^s(a
5old^s(a
5tageSubmitted
7ke^USCents
8ings(b
7te
9(b
6ealBlockNumber
9Value
5ub$BuyerOf(a
<CreatorOf(a
4TaskIndex
5eamSale^s(aa
5hreads(a
5icketBought(a
:Number
6er
6meGen0
8MinQuorumMet
8Of(b
:NewCredit
8^Set
8Withdrawal
8stamp
6p(bd
5okenClaimedBlock(b
:reated
9Id
:s;ableDate(b
GNumber(b
9^Wei
9sIssued
6talSupply
5rade
7nsac~Rec
?@
9fer(b
<@stamp(b
6eeId
5woAmbassadorsAdded
5xBlockNum
4UETCWC
5nlockMine=@
5pdate
:(b
:ByChunk(a
:Ether^
:Overall
:d
6grade(b
5sdPerEthChangeDate
6e(b
4Verified
5ote@
4Wager@out@stamp
5ei^PerCWC
5illAccount
6nNumber
7ingTicketNumber
7ner
:(e
:!
:Id
:Reward(e
8ingNumber
6thdraw@
<al
>@
B(b
4YearTotalSupply
4_buyer
5completed_migra~
5demurrageable_balance
5forwarder_created
5hash
5jack
5mint
5number
5offer_id
5payment_timestamp
5release_date
6oll
7und_bought(b
5slot
5transfer_state
5winner
4ac~
4combo
4gamewinner
4hack(b
4owner
4random
5ecordindex
4timereduce
5okencount
4week_winner1
?2
?3
2tch&
5FciUser(a
<Controller(ab
5TotalFci(a
3er
4stAc~(a
7ddress
7pply(bb
7uc~Indices(bb
6=Check(b
7id@
9der
6Data
7ifficultyPeriodStarted
6Edi~Released
7rc20TxRequest
7thTxRequest
6Friend
6Logic_
6MonarchInternal
6NewRockForSale
6OrderId
6Params
7haseNumber
7ing(a
;b
7ost(b
6ReferenceBlockNumber
8lease@
7ound
6ScheduledUpdate
7eriesForUser
C(b
7pender
6$=
6UnlockStage
8stake@(b
7pdate
6Value
7ersion_
6Winner
6_buy_time
6price
3ium=
3p$
2unch
6(a
6&
6Game
6Length
7otto
6Outcome
6Sale
7hipOnMEA(ae
6@
6Vesting
6_date
6ed
7r
2wSupportProfit!
2yEgg(l
3erCount
3ingEggDeduc~s(i
9Levels(i
1b$
2rs$
1c=
2Sold
2cxTeam!
8$sVesting
1eader
6!
6Bid
7oardPlayers(a
6@stamp
6|s(a
6_2
73
6board(a
;Data&
;Entries(a
6s
7(a
8b
4ingBid
7Gang
7HitCount
3fOwners(a
4^
3kEther
3pYearsBefore(a
3rnFee
5Move(aa
3seBlock(aaadddd
5Card(eccc
4tSwap
3ve
5Community(b
5Message(c
5Team(aa
;baa
6okenGroup(a
?AndWithdraw=(a
2dMultiSig
3$
8sAllocated
3ger
6(a
7bd
7d
6&
>Addr
8unt
6EntryForIndex(da
6Name
6;(bba
6UserBetContribu~(b
6|
2ed
3kStealOn_
9Pot_
9Today_
:racker_
2ft?
4Count(i
4ForSale
4ICO$s
5nTier
4Lottery
4Name
4OnLastMint
5ver$s
4Pts
4Share^
>RateOfIncrease
4Today
6kens
4Votes
6ws
4over$sBuffer
8Wei?(b
2gacyRep&
6Syc&
4l
5&
5s!
3endary
9(a
9TicketsClaimed(a
6sCrowdfund
7$
3giFrase(a
5Msg(a
3itRaces(b
2mon&
5sDroppedToTheWorld
6RemainingToDrop
2n(C
4b
4d
3d
4(a
6jbj
5baa
6babj
4Ether
4Fee
4GovernmentMoney(b
4er
4ingDays
7InterestRatePercentage
7List(ba
3gth
6(<Sets.addressSet storage>
=byteSet storage>
As32Set storage>
=int8Set storage>
@Set storage>
=uint8Set storage>
ASet storage>
6OfCommonPrefix(dd
Ejj
D32(dj
F32(dd
8Record(a
2tItRain(ea
:gh
3halBonusAtHits
ALead
E(a
2v1
32
3!
3Blocks(b
3PerUser
3$
5ll
3eRage
4l
5(a
6b
51Bonus
52Bonus
5Clear@
5EndDate
6xps(e
5Four$Num
5OneBonus(a
8$Num
5Rate2_(e
9_(e
5Splits(a
6tartup@stamp
5ThreeBonus(a
:$Num
6okens
6woBonus(a
8$Num
5Up(a
9kkkkkk
7Car(iii
7Mining(a
5Value_(e
5_1_amount
8percent
62_amount
8percent
63_amount
8percent
64_amount
8percent
65_amount
8percent
66_amount
8percent
67_amount
8percent
68_amount
8percent
69_amount
8percent
6referrals_count_by_address(ba
5s(a
7b
5up(ba
7Values(a
1iabilityFinalized(a
2b!
3raryIndexToApproved(a
>Founder(a
ECount(b
>Owner(a
2cenceShop(I
7Teller(I
5seAffiliate(a
8ttributes(a
7CostDenominator
;Numerator
7Expira~@(a
7Ids(a
8nfo(a
8ssued@(a
7ProductId(a
7Sales&!
7s(d
2f$
3eA(a
4Coin
4D(a
4Events(a
4Factor_i
<i
=i
<v
;v
4N(a
4Points
4ReserveAlloca~
;@Lock
;|
4@
4VestingStage
@s
4time
8(a
8Deposits
8Payouts
3t(b
4_ban
2gerAdmin!
3hthouseFee
:Lib
5pool
2ke
4(a
4Block(a
4_trackable(b
2mit
5(a
5!(b
6mount
5BranchType
6uy(a
5ClosedSale
6rowdsale
5DateCrowdWave1
B2
B3
?eek1
B2
B3
9Presale
9Sale
6efaultType
5ETH
6ndDate
6th
8er
5ForChecklistId(e
5Gas^
5Ico$s
5MaxSupply
5OfBranch
7Team
5PerDay(a
8Holder
6reIco$s
8Sale
8sale
6urchasing(aa
5Sell(aa
7t
6upply
;PerYear
5TeamType
6ier1
92
93
6oken(b
:ForSale
6ransfer
5VIP
5a~
5break_RELEASE
;contrib
5edSale
7|s(b
>Manager
5s
6(a
7k
2neOfPlayers(a
3k(a
6bb
5b
6c
4Coin(b
4Impact(c
4ToGateway(bd
6Master|(b
Db
4ed&
2quidAllocatable
6Pledging
6ate
9(a
:b
9Losing
9User(ba
8ionPeriod
<riceWad
;ThresholdPercent
<imestamp
;s(b
6ityFund
=!
9Pool
=Alloca~
=$s
?tal
9Reserve|
9Status
2st
4(a
5b
6aa
8aa
5g
4Active
:Bets
:Eggs
5ddress(ba
>a
;es(ffffg
>g
?h
@h
5gents
5llAttendants
5pi(addcc
5sset(aaaa
9Documents(daf
BFrom(ddaf
9s(aaf
:From(adaf
4Backers
;(a
4Card(lnnK
5enturion(a
5ontracts(b
4Dapp(ccc
5da(baa
4EggsIds
5xists(<LinkedListLib.LinkedList storage>
;d
4FaceToFaceAttendants
5iles(aa
5orSale(ka
4GlobalAuditDocuments(af
HFrom(daf
4Item(aaab
;b
<a
<d
=b
;e
<b
:bc
8FromRegistry(a
4Members
5odule(addcs
6ods(a
5ultipleItems(hab
Ea
Ed
De
Chab
Dbo
4Names(a
9Len
5extFourCards(n
4OfAssets(b
6Funds(a
4PairForReserve(bbbf
Efff
;Supplier(bbbf
8s
4Records
4Sales(a
5cam(aca
5haresForSale(aa
5priteForSale(aa
5ubName(daa
=daaa
7RoundNLF(aa
4Team$s(a
5iers
5okenByRank
9Fee
5rophy(aaaa
4UserRecasts(baf
?From(bdaf
8sBets
4_token_ask(b
;bid(b
4ed(b
6Card(a
:Type(a
6DragonGirlLotteryUser(a
6EtherMonster(a
6Martials(a
>Length
7edal(a
7onForClass(l
<Mon(l
6$sAsBytes(aa
5ner
8s(a
5r
4ing
7Date
7FeeInWei
7s(a
9d
2ttAdmins
4CapsuleGet(d
5lientId
5ontentExists(d
4Holders(a
4ID
5sCapsule(d
4PoolIDExists(a
4afi(a
7Account
7ContentCommit(dccccf
7@Capsule(dcccca
4leMonster
2ve
4BlocksNumber
4Dragons
4Since
3ingSupply
1mda
1n(a
4a
5a
5e
3b
2UpperBound(aa
<32(aa
1oad=s(h
4Controller(b
6re!(b
5rowdsalePurchases(a
4Data
4EarlyParticipantsWhitelist(gh
:urchases
5th=s
4Fund
4PresalePurchases(b
6ofit
4Random(a
6te(a
5eferredInvestors(og
7und
4StarbaseEarlyPurchases(b
4$=s(b
4Version(b
4WhiteList(go
4edRefund
3n
4Activa~
5mount
4Collec~Notifica~(a
4Dura~
4List(a
4Posi~s(db
4RepaymentNotifica~(a
4Term
4s(a
2cal
5RevenuePercent
5TeamScore
5ityCode
4~
8Id
8s
9(a
9Length
3k
4(a
6aaa
5b
6a
7a
8a
9a
6baa
9f
6fhh
6hh
5c
5d
6a
6ba
6d
7d
5ea
5f
5g
5ncbqi
4Account
;(a
<b
=a
=f
;Of(b
;s(ga
5ddress
;(a
<b
=a
=f
<g
;AfterITO(b
;ByKYC(b
;Value(ba
;es(b
6visors$s
5fterManuallyMint
5ll
7oca~!(b
5mnt(ba
6ount
:(b
;ddd
:s(b
5ndDistribute$s(baaa
5sset(d
9Holder
5t@(b
4=
;(a
=a
<b
=a
>a
;Changes
;Of(b
;s
5egunAtBlock
6t
7(a
7Info
7sForWithdraw
5lock
5ounty$s(aba
4Changes
5ontract
<(f
<Owner
9oller
6stPerHour
6unt(b
5rowdSale
5ycle
4Date
6ys
8(b
5eadline
6posit(dc
5omainOwnership;s
6na~Receiver
6wnPeriod
5ura~
<@(a
4Emission
5ndBlock
5pochsMap(ba
5xpira~
6ternal;
4File
5lag
5orAll(f
7Days(aa
7Order(ba
7Work(bba
5unds(a
;a
4GNO(a
5ate
5enesisImports
5old;s(f
4In
6Days
6LastSixteenPrize
6QuarterFinalPrize
6SemiFinalPrize
6dexes(a
6fo(b
:l
6ternalAccount(bf
Fa
4Jackpots
4Limit
4MainSale$
6na(a
9ba
6ster;s
6x
7Supply
5e
5in
5ntp;s(f
5ultis
4Name
5um(b
4Of(b
5pen
5ver
5wner
9=(aa
9Cut(a
9ship(a
4Percent
;age
7iod
:1
:2
:ForBuyers
:Start
5resale=s
6iceChange
6oducts(a
5urchase
4QtyToAllowTrading
4Rate
5ecordMap(ba
6demp~(f
6leaseDate
?1Year
@year
?2year
?6Month
;@
6maining$s
6ward$(b
?Many(g
:sPercentages(a
4SeedInvestors
6ll(f
5hares
5tages(a
7rt
9@
7te
8us
:(b
<f
5upply
:(f
5ymbol
4TeamAndReserve
8$s
6rm(ba
6xtKey(ca
5hreshold
5ill(ba
6me
8(b
:a
8out
8stamp
5o(bc
6ken
9(ba
<a
9=(b
9Controller
9Days(baa
9ForNode(aaa
9Holder
9Locker
9Supply
9ToBlock(a
Aba
;Date(baa
9s
:(a
<ad
;ba
=a
=ba
=el
;gh
:!
:For!(baa
>s(bbbbbbbbb
=Cs(bbb
=Fs(bb
=TeamAndReserve(b
>radingMarket&(ba
:Percent
6pLevelDomainOwnership;s
6talSupply
6urnament(af
5rading
7nsfer
<(f
<For(ba
<s
5s
4UnlockGamblingPartyForBetting(af
:MatchGPForBetting(af
6sold$s(b
6til
9(ac
5p(f
6?Of(b
<StrOf(b
6End
4Value(ba
9s(b
4_addresses(b
4address(b
5nce(b
4date(b
5own
4ed
6(b
8a
7gh
6AccountThresholdEth
FUsd
=s(b
8es(b
7ddresses(b
Aa
?AfterITO(b
7llocatable
=ion
@s(b
7mount
<(b
<Of(b
7t
6=
=(b
=Cor(b
?unt
=Of(b
Aa
=Pri(b
=s(a
?b
@a
>ReleasedAfterOneYear(b
7oardBonus!
7yUser(bb
6CZRMap(ba
7ollateral(b
8ntribu~s(b
8re
8unts
6Days
7elegating$s(b
6For(b
7undsForthefuture
;Percent
;Seconds
6GNO(b
6InBets
6Keys(a
6Money(q
9sterStatsCount
6Of(b
6Period
6RewardsOf(bb
6Sell
7tatus!(b
7upply
6Team
:Alloca~$s
:UFT
7ill
8me(b
7oken!
;=
Bs(b
;Holder
;ToBlockList(b
<ransfer(gh
;s
<(b
<|
<_12(b
=3(b
=6(b
7ransfers
6Until
;(b
;Block
;@
6Vault
6|
<Info(b
6Years
6_alloca~
7funds_for_revealed_spins
7since
6ance(b
6type(b
5r
6(b
6s(b
4holderNumber
:s(a
4ing&
?!es(b
7PeriodInMonths
7Ratio
4outPeriod
4s(a
6b
6d
5tatus
4time(e
4up
6(b
8a
9a
6Account(ba
=s(gaa
@h
6=Of(b
6&
6Date
7ura~
6End@
=(a
7xpira~s(b
6Of(a
9b
6Period
7hase1(b
;2(b
;3(b
;4(b
6Seconds
6Threshold
7okens(ba
6_enddate
7startdate
6s(b
2g
3(a
4ba
5ba
4c
5a
32(a<Math.Estima~Mode>
456(a
4Bounds(a
4ForSmallNumber(aa
332(i
38(e
3Account(ba
4dr(b
4llStart
8op
4pproval(bbd
4udaxTxDetails(ca
3=(a
5se2(aaa
3Call(aa
:a
4heck(aca
4laim(baa
6ssic(cb
<e
4ompleteSetsPurchased(bbba
?Sold(bbba
3DisputeCrowdsourcerCompleted(bbb
Hntribu~(bbbba
FRedeemed(bbbaaah
F$sBurned(bba
LMinted(bba
L;red(bbba
3EntropyTxDetails(ca
4scapeHatchChanged(f
3FailedSweep(bba
4ee$Burned(bba
;Minted(bba
;;red(bbba
6WindowBurned(bba
<Created(ba
<Minted(bba
<Redeemed(bbaa
<;red(bbba
3GameData(ooBedd
4ive(bc
3Hash(a
3InitialReportSubmitted(bbbafhf
@erRedeemed(bbbaaah
B;red(bbbb
3LargeContribu~(ba
3MarketCreated(dccbbbmme
Gomme
9Finalized(b
9Mailbox;red(bbbb
:igrated(bb
9ParticipantsDisavowed(b
9;red(bbb
3Needed=(a
3OrderCanceled(bbbdeaa
9reated(eaabaaddbb
8Filled(bbbdaaaaaaad
3PayerStatement(c
4laying(b
4resaleResults(aa
5omiseCanceled(a
;onfirmed(a
;reated(abaa
:Fulfilled(a
:Unfulfillable(aba
4urchase(ba
>a
;ViaFiat(bad
>$(bbaad
3Query(db
3Ref(ba
5portingParticipantDisavowed(bb
6uta~$Burned(bba
BMinted(bba
Bs;red(bbba
5sources
6ult(0c
:c
4oyalty(ba
3SaleStart(aa
4endEvent
4hare$Burned(bba
=Minted(bba
=s;red(bbba
4igned(cq
4tate(ce
5r(c
6ing(c
4weep(bba
;ba
3@stampSet(a
4oken;(bba
4radingProceedsClaimed(bbbbaaa
6nsfer(bbd
3UniverseForked
5signed(d
3WorkerStatement(c
3_approve(bba
4demurrage_fees(bba
4event(c
4mint(ba
5ove_fees(bba
4recast(ba
:_fees(bba
4transfer(bba
3folio(d
3ged=s(ba
6TotalSupply(a
7ransfer(adbb
5r(c
3ic
5!
5&
5Version
<(b
<s_(a
5_
6contract
4n(c
5State(b
5User(b
4t
5e(c
3oFee
4Id
4Png
5rice
4URL
4Vote
4X
4Y
4s
5(a
4ut(c
6User(b
3sCount
2l
2ng
4Buy
4Descrip~
4Lock
4TermBudgetAlloca~
8Holding
8$s
8budgetAlloc!
5imeLock
4_party
5tokens(a
2okUpClaimer!(ab
4sCoin
4up(ba
8d
7d
7m
6AllSince(a
:prites(a
7mountUserDonatedToCampaign(ba
6ByProject(a
6CampaignPart1(a
B2(a
6Dona~(aa
6FeaturedSprites(a
6Genera~(a
6Index(a
=a
8terest(aa
6Kitty(a
;Details1(a
B2(a
6PriorLottery(a
6Royalty(b
6Sprite(a
6TicketHolder(a
7oken(c
6UserDona~HistoryByCampaignID(b
2seFunds
4Game
4Num
4Odd
4Percent
5ooling
4r
5(b
7a
5Of(aa
6ne
5Two
3ing?(ba
3sToCharity(a
?b
3t
4(a
6a
4_and_found_master
2ts
4(a
3teries
9(a
:i
:m
6y
7!
>es(a
7=
8yETH(b
<5(b
7CloseInsurance(k
8ore
9unt
7Fee
:Val
7GiveHunt
?MinimalNumber
7History(b
7Id
7Param(a
:ticipants
8rice
7Ratio
7$sPercent
=|
9talEarning
4o=
5HighestNumber
5Identifier
6ndex
5Length
6owestNumber
5^
5Queue
3us|75Pct
2veEvent
4ID
4Message
4Name
4StoriesCount
4Url
4lock_price
>_LOV
4rList(a
2wCapTxWei
6Wei
4ompose(aa
5ntribu~Award(b
3Eth
6erBonusLimit
=Value
3Limit
3@BonusLimit
<Value
4okensToSellGoal
3erBound
5Case(d
5LimitForToday
5MinWager(a
5Supply(a
5caseString(c
4st!Reserving
7sk!
9^
9@
6Bid
6Contribu~
6GameWithoutQuorum
2yaltyCap
7Part
7Supply
7|
1pAsk^
5Volume
2Bid^
5Volume
2FeeBp
2MaxVolume
2TargetPosi~
2c
2osi~1(b
2s
1rc=
3Deposited
3Initial=
3Received
3Sent
3$!
3UnlockPerMonth
3Withdrawn
1tc
3=
3Id
2dParams
1uck
4yDogInfo
5Genes(a
5Number
;Of!(b
5PendingIndex
<s(a
6ot
5Records(a
5StoneEarning
5Voters
;(a
5You$
5_number
5buyTracker_
5num
2dum$sPerEther
2ke(acc
2netReserve
3yrMultisig
5PercentOfTotal
1vl_count(e
0m
1CURRENT_STATE
2anSpend(b
4celPayment(h
2odeIndexPlus(d
3inPerBlock
3nfirmPayment(h
1Deposit|
1EtherInvalid
6Spent(b
6Valid
1FUNDING_BONUS
9CURRENT_DURATION
9SALE_TIMESTAMP
1HostFee
1IdApproved(a
3Owner(a
3xUuid(a
2tems(a
1ModeratorKeys(a
:s(b
2ultiSig|
1NormalizePledge(3
1Owner
1Paused@
1Queue(a
1SumRawSpeed
1$
6(ba
2ransfer(lhl
1UpgradeCostFactor
8Speedup
2sers(b
1VestingAllowed(b
8=(b
9egins(b
8Days(b
8Spent(b
1Withdraw(h
1_Creator
2D_n
3ata(baa
6base
2GameHidden
2KYCProvider
2Owner
72
7Fees
2Paused
2SMR
5Minter
2aOwner
3ccount
9s(b
3llowPrivileged
3nalytics
3pp
5Name
5Params
6rice
3ttaching_enabled
2bIsLock
3eneficiary
2callback
4tegories(a
<Count
=reator
3hangeable
4iefOwnerIndexBit
3laimingIsActive
3onsensus(b
5tribu~History
>s(bb
7oller
4signers(a
;ApprovedDisband(a
2dailyLimit
4taset
9Name
9Params
:rice
3escrip~
3ividend=s(b
2emissions(a
5tcost
3xchangeRate
4ternalMintingEnabled
2founders$sStorage
3unds
7!
2hardCap
3odlers
4lders(a
2iexecHub!
3nitialSettingsSet
4vestmentsByPaymentChannel(b
8ors(a
3sCirculating
2lastDay
6Funds?
2mLock!(b
3arketorderIdx
4xTotalSupply
3ultiOwnedRequired
2numMembers
5Owners
2opNum
3rderBook(a
7Count
3wner
720
780
7Index
<(a
7s
8(a
2params
4ymentChannels(a
3ending
9(d
9Index
>(a
3ools
3resaleFinished
4ocessed_mint_id(d
5ofs
3ubliclyDistributed$s
2requester
6ired
4sultCallbackProof
2sale
6s(b
3chedulerRewardRatioPolicy
4ores(b
3haredDividend=
3oftCap
3pentToday
3takeRatioPolicy
5rt@stamp
5te
6us
4derr
5out
3ubscrip~LockStakePolicy
>MinimumScorePolicy
FtakePolicy
2teamId
3hawTS
3oken
7DiscountThreshold
7^
7sClaimed(b
4talAppCount
7DatasetCount
7Invested
7$s
7WorkerPoolCount
3xs
5(d
2unclaimedHolderIdx
3ri
3serHistories(b
2wallet!
3cStored
3ei=s(b
3oidRegistered(b
4rkerIndex(b
8PoolHub!
8pool
8s(a
1adKing
3eOperatorFor$s(bbbajj
2gic
5Store
5numsig
3nitude
2ils_to_deliver
3n!
4Backers(b
4CapInUSD
9Wei
5oinSentToEther
6ntract
4DAO
4EtherReceived
4Fabric!
5undAccount
8=
8Precent
4ICO
7End@
7FirstWeekEnd@
8ourthWeekEnd@
7SecondWeekEnd@
8tart@
7ThirdWeekEnd@
5coBonusStages(a
7EndBlock
7StartBlock
4MultisigEther
4Player
5oolCutPercentage
6t
4Sale1Limit
8Active
9lloca~s(b
8Bonus
=End@
=es(a
8Date
9eadline
9ura~
8End
;Date
;@
9therCap
9xchangeRate
8FirstBonus
=EndDate
=StartDate
8HasEnded
8Investors(b
8Max$s
9inEth
;PaymentWei
;imumWei
8RateP1
=2
=3
=4
8SecondBonus
>EndDate
>StartDate
9tart
=Date
=@
=date
9uccessfull
:pply
8TLYperETH
9okenLocked
=Raised
=|
:talSupply
8WeiCap
8_Cap
9EndDate
9StartDate
9$Cap
=sSold
9WeiRaised
8price
5endTTC
5tart@
4$sPerDollar
4|
5eiRaised
4_balance
5ico(ba
5sale
4netAccountDict(b
8ddr
7Locked
4sale
8=Of(b
8Remaining
8TotalNumber$Sold
5treetCrowdfund
:$
4tain
8(aa
8er
8ing
5enance
;(a
;DeactivateUser(b
;Mode(f
;SetAccountsList(g
4wallet
2jorEventFunc(add
:s(a
5OwnerShares
5Partner!
5_partner_address
5ityMargin
8Reward
2ke(<TradeMessage>
5a
62
5baf
7j
6bnn
5ghbf
4Admin(bf
6op~Offer(Da
ATo!(Dab
<Request(D
5nnualInvest(a
6other&OwnerOf$(b
4BatchPayment(gh
5et
7(<RaceLib.Race storage>bba
8a
9abaa
9ba
8bad
8eeeeeeb
8f
5id(i
8k
9a
5onus(gh
5uyOffer(i
8rder(ba
4Call(bj
5laim
9(a
5oin(a
6llectibleUnavailableToSale(baaa
6mment(c
6ntractPermanent(c
6unt
4Dai(abb
7lyInvest(a
5eal(aaaaacbcbaa
6posit
;(a
=bbb
4Failed(f
5ee
4Hash
5ybridiza~(aa
4Invisible(n
5tRain
6Sellable(a
4Kebabs(b
4Liquid
:(b
:Cor
:Pri
6ve
4Money
7thlyInvest(a
6veBro
4NewProposal(ca
5onFungible(ab
4Offer(aedd
9ForCity(ka
@ForSomeone(kab
5ldFucks(i
5p~s(aba
5rder(aabbaa
;bbaa
:b<address[5]>zdedd
;bbaa
9s(hhgghh
4PayableRegistra~(d
7out
:s
5ermanantlyTradable(e
5ick(ea
5lant(aa
5redic~(0c
7sale(cbaacc
;Ready
6oduct(ccaa
7ject(bcaa
<caa
7posal(caaaab
Cb
=ea
>e
4Registra~(d
5oll(a
4Sale(a
5ellOrder(baa
5hitClone(b
5perm(b
5uccessor(b
5wap(bad
4TJs(b
5apTop
5okens
:;able
6matoes(b
5radable
<(e
8eable
=(e
7nsfer(a
<able
4Undestroyable
6tradable(e
4Visible(n
5oxTub(bbbbb
4Wager
6llet
:(a
5eeklyInvest(a
6i^(a
5ildCard$(a
5orkStage(aa
4_move(aeeee
9_and_claim_victory(aeeeeeee
4r
5(b
5AffiliateFee
5BetsCount
5DAO
6ao&
6epositEther
5Fee
5;Asset(ba
=Ether(ba
5WithdrawAsset(a
=ERC20$(ba
>ther
B(a
5ich4(ba
5sCount
4upLegendary(a
6Shiny(a
2llocBudget(ba
2na
4PerEth
4$
4ge
6Admins(bf
7pprovedMintingModule(bf
>;Module(bf
6Investors(ba
6Minting(f
6Operable(bf
6;Lock(bf
6d&s(ab
7$Ledger
6ment
:?
:Body!
:&
B!
:Fee|
=s
:Locked
:$Alloca~
?sDelivered
:|!
;hitelist(b
6r
7(b
71
72
7Addr
;ess
>Map(b
>NumberMap(b
8mount
8rray(a
7CountInt
7ETHaddress
:bonus
:candidat!
7IsPaused
7Key
7ListMap(a
7NotSetInApp
7Off(b
8n(b
7Primary
7Secondary
9t
7ToFunds(b
8ransfer(ba
7Unset
7_
8address
8withdraw
7s(a
9b
8Count
3dateInBlocks
3geFund?
5WhileList(bf
3ipulateSecret
3o&s(b
3ual
6Batch;$(hg
7onus
;Active
7uy(ba
9^(a
6CheckInvestmentRequired(aa
7loseBet(kk
7ontribu~(ba
6Draw
6EmissionEnabled
7ndDay
7therWithdraw
7xchange(ba
6FinalizeRound
9ish
<Game(a
6InitializeTreasure(a
8suranceResolu~(ded
6LCs
7ockFunds
6Migrate(b
6Override
6PayExpiredDuel
7rice
7urchase$s(ba
6Raffle
7ecovery(b
8fund
8serve(ba
6Sell(ba
8nd(ba
:Ether(ba
:$s(ba
7tate
6$;(ba
7ransfer(ba
>$
CsTo(baaa
FWithBonus(baaa
6Update=s
D_only_Dev
6Withdraw$(a
>al(a
@Fallback(ba
6_lottery(d
7withdraw
6lyAssign$s(ba
8ConfirmDona~(baacc
8EndAuc~
;ed
9xchange&PreDGZtoDGZ(ba
8MakeOraclizeCall(aaff
Mf
9int$s(baa
8ProcessTransac~(ba
8ResetGame
8SetNumRewardsAvailableForChild!(ba
6yAddReferral(ba
BPayer(bba
7Mint$s(aba
4facture(bbb
;r
<Rewards(d
2p
3(aa
5e
4b
4c
3!Block(b
:Pass(b
3Comple~NumberForWithdraw(b
3Height
3Investors(b
3MartialLotteryCount(a
:UserCount(a
5ster
3OwnerOfCard(a
:Medal(a
3ToNewRange(aa
5Range(k
3UesrAlreadyMartialOwner(b
4serHasHunterLicence(b
:LuckyStone(b
:SmartSpeed(b
7LastAttackMonster@stamp(b
;FreeLottery@stamp(b
8otteryNumber(b
7Nickname(b
7Power(b
3Width
3_address(c
3pings
2rbleEarth!
3gin
6Call
6ForMajority
3italStatus
3k(bd
4AllRead
5sComingAndFreeze
6Founder
6Scam(b
4CombatEnded(a
:Started(a
6ntractAsInited
5redit(ba
6owdsaleEnding
4Done(k
4FirstSaleComplete
5unding(ba
4Hours(ddm
;m
4MilestoneComplete(a
4ParticipantIdentifiend(b
4Read(a
6leased
4$s(ba
5ransfer$s(ba
4UserAsFounder(b
4er
5t
6(a
7b
61
62
7018$Created
99$Created
820$Created
91$Created
6!
7lloca~
7nts
6=(b
7uy(a
6Cap
7ells
7oins
6DataOracle
7efaultFeeHigh
@Low
7rugs
6Eggs
6Golds
7rapes
6Ideas
7ncentivesAlloca~
7tems(a
6Kebabs
7nowledge
6Maker
;(c
;Fee
8nager
6Place
7oohs
7rice
6RegisterCost
>$(b
6Sale(acbb
7eeds
7ize
7tate(ba
8ores
7upply
6@
7oken
;2018
>9
=20
>1
;Created
8talEarning
7ransfer(bba
6|
7ine
6_AcceptBid(aa
7BuyForSale(a
7DeclareBid(a
>ForSale(aa
ETo!(aab
7WithdrawBid(a
?ForSale(a
?Wei
7communityStorageVault
6a|
7ctive
6ing
9Account
:ddr
=ess
:lloca~
C$Send(ba
:ndBounty
9Cap
9Fund
=!
=s
9PartnerSupply
:ercent
:ool
:rofit!
9Recipient
;serve
9Supply
9Team$s
:oken!
?lloca~
?mount
>|
>sDistributed
?Percent
?|
9|
6morties
6or
8sTotal=
6place
;(a
;!
;&
;Manager
;s(b
6s(d
7ubscribers
6ting
:Percentage
4s(a
3riageDate
8LicenceImageIPFShash
8Proof(j
=Doc
8Status
5ed
7At
2sFreezed$s(ghh
3k
3sApproval(faa
:e(gh
4Burn$s(gh
4ChangeRegistra~StatusForGoldWhiteList(gf
OSilverWhiteList(gf
5laim
9Limited(aa
4EthFund
4Grant(g
4Mint(gh
4Notify(g
4Pay(ga
4Revoke(g
4TeamMsgHash
5ransfer(g
>h
?d
4create(aa
3ter
6(a
7b
6!
=1
=2
7uth
6=Of(db
6Calculator(a
7ontract
>!
8py
:Countdown
7ut
6Fns(d
6Has
7older
6KeyActive(b
9Index(a
9s(b
6Mint(ba
:er
6Owner
6Recruitment
8wardsPercent
6Server
6ToReferral(b
8ken=Holder
8talEarning
7ransferFrom(bba
>sEnabled
6|
6_contract
6node
:Deregister
:IsValid(b
:Mine$s
:Register
:;Ownership(b
:s(a
6pieceToApproved(a
=Owner(a
=^(a
=SnatchWindow(a
6resellercontract
6y
7(b
2t
3chBettingInfo(aa
6yAdmin_TwH36(h
7tes32Prefix(dj
5Completed
7unt
5Day
5ExistingBids(<Bid><Book>fd
Gd<BookType>
5Id2PartyId(aa
5MultipleOrders(33
5Orders(ll
5@(i
6okenOrderByAdmin_k44j(h
5_pools(a
5es(a
8c
7Delay
5ingEnabled
5pool!
5s(a
3eAnimal(aacc
4s(a
3ure=Of(b
6Dragon(a
6d
7_block_number
8timestamp
2x
3(B
4aa
3256(aa
364(ll
3AbsKindness
4ctivatedSalesTotalCount
4ddresses
4ffiliate
4gonCount
4irDrop
6dropParticipants
4llProfit
6oca~
7wed?(b
:BetInEth
?$s
:ManualDistribu~
:ReservingPercentage
:TakerBetsPerMakerBet
4mmount
5ount
9!es(b
9Bonus
9ForSalePromo~
9ICO
9Per(a
:reICO
<sale
9RoundSeed
4nimals
5onymousContribu~
4penSell
5peals
4rtworks
4ttackPrizePercent
6empt
7ndees
4uditDura~
4vailableForSale
3=
5tchAssignment
6tleRounds
4et
6(a
6CoinDice
6Divisor
7oubleDice
6ThresholdPct
6Wei
6sPerBlock
4idAccount
6Eth
6InCentsPer!
6Percent
6Value
4lockAc~s
8Drift
4onus
8Tickets
5unty$s
4ridgeHeight
9Width
4urnThreshold
5y
6?
6Cap(b
6Limit
6^
;(Ya
6RateInPrecision
6ingDate
4znTankSizeOfMidGradeCarWithIndex(a
@PremiumCarWithIndex(a
@RegularCarWithIndex(a
3CP(ak
4WCsPerReturnLessThan
4allFrequency
5ndidateId(a
5p
6CompanyInventory
6Ecosystem
7th
7ur
6Ico
7nCents
6Main
7int;
6Pre
9Sale
6Reached
6$Presale
;Total
;s
6USD
6Wei
6_MInt
5rdUpgradeLevel
4hangeFee
6rId
7acters
5equeValue
5ildCount
4laimBlock
4oinCap
7Sides
5mpanyValue
5ntract=
8ib?
:u~
??
E&
?InWei
?Per!
@hase1
D2
?Wei
<or
6versionFee
5st
4reatorWithdraw
5owdsaleCap
<SupplyInWhole$s
4umAcceptedDeposits
4yclePlayersConsidered
3DGAME
4ailyCap
5ys
4ebt
5creasePct
5lay
8(a
5posit
5stroyThreshold
5xSize
4ividendDepth
4ona~InWei
6ors
4ropsPerTx
4ura~
3ETH
4arlyPresaleEDUSupply
8Stage
6ningsClaimsRounds
4ntrants
4th
6CapBuyInFp
9SellInFp
7ontribu~
6Per!
9Transac~
6Raised
6ToRaise
6er
8Cap
8Investment
3FadeoutPromille
4ee
6Percentage
6s
4inalStage
6neyPerSaleLessThan
5rstRound$Limit
5xedSupply
4orceOffset?
5unda~CapUSD
4undedValue
7ing
:Goal
7sThatCanBeWithdrawnByOwners
3GIRL
4amble
6esPerBlock
5s^
;InWei
;Penalty
;Value
6Refund
4oal
7InICO
7ReachedAt
4uaranteedLimit
3HLPMTMarkup
4alvings
5rdCaphardcap
4olderCount
9Percentage
5pefulsNumber
3ICOFirstSupply
6SecondSupply
7upply
6ThirdSupply
4ceDragonsCount
5o
6$Limit
4d
4mmortals
5ports
4ncrease
5dex(b
5fla~Rate
5terest@_
5vEth
6est
9edLimit
9ment
=ICO
>nWei
=s
9orCap
;s
4ssuableNomins(b
7e$Limit
8d$sPerIco
9With?BasedBonus
7ingSupply
3Leaders
5ndingItem
6gth
5vel
4imit
5nked|Count
5stingSeconds
4ockDura~
7Period
3MSC
4ask
4edalsBurned
5mbers
5ssageChars
4ineSize
6t
7Block
7Cookie
7PoS
8roofOfStake
7Quantity
7able
7ingDays
:Power
:@
6utesFundingPeriod
:ProposalPeriod
4onsterHit
4ultiRolls
3Num
6Interests
6MC
6OfPayoutCycles
6VotesPerAccount
6bPerSubscr
7er
9Members
3OpenAttacks
3P1Cap
4VB
5PContenders
4articipantCount
>s
5ymentInEther
:s
6sPer
4ending=s
:Participants
<youts
5rExchangeBP
6Persion
6Team
7x
6User
6|
6centPerPlayer
6iodDura~
4lay
7erNum
4oly
5olTotal
5s
6sibleWithdrawal
5wer
8User!
4reCrowdAlloca~PerInvestor
6ICOSupply
9$?
9andICOSupply
7co?
9$s
6Sale
:1$
:2$
:Stage
6miumDragonsCount
6sale?
:Contribu~Ether
:EDUSupply
:Supply
:$s
:Wei
5ice
8InWeiFromUser
6vateSale
>Stage
5ofit
9(a
9AsPercentOfHouse
9Divisor
9Percentage
6por~
4ublicSale
=Stage
5rchase
;NonWhiteListed
<um
;Once
;Size
3QtyInFp
4uanValues
3Racers
5ise?
5ndom
9(a
;b
9Round
6ge
6kingSpots
5te
4eached
5cords
5ferer$s
8rals
9er$s
5gistrants
5serve
6olvedAgonId
6ult
5vealSeconds
5ward
9UnitsAvailable
4ingSize
4ound
8Delay
3SCount
4GTSupply
4ale
7=
7Num
7$
7sAllowed
4ecurityGuardDelay
5edStage
5ll
7RateInPrecision
5t
4ignup
4pend
8$
5inners
4tage
81Alloca~PerInvestor
82Alloca~PerInvestor
83Alloca~PerInvestor
6ke
8Holders
6minaForLevel(a
4ubdivisions
6missions
5pply
9ForEra
9Generable
9Possible
9Reached
9_
3TIPSupply
4ankSizes(a
4eamBonusBps
7Size
5xtLength
4hreshold
4icket
9?
9s
:(a
5ers
5me
7Bonus
<Percent
7IntervalHB
7Remain
7out
4oSell
5ken
8?
8BetValue
8Cap
9ount
8ForHold
;PreSale
;Sale
8Num
;bers(a
8Purchase
@(b
8Sale
9upply
>ICO1
A2
AEND
>PreICO
?ublicSale
8ToBuy
8WinValue
8lossValue
8s
9?
9ForCommand
<Sale
9PerAccount
=rticle
9Raised
9Sold
9ToBuy
;Create
;Distribute
;Mint
;Sale
?InClosedPreSale
<old
9WithBonus
5tal?
8Supply
5urnamentContenders
4radingStart@
6inerLevel
6nsfer?(a
;Per@frame
;s
5ialDrops
5ophies
4x
5Gas
8^
5Size
5Value
3USD
4pdates
4sdFundingReached
5erContribu~
8reatedPerformance
7Payment
8ower
3Validators
6ue
4eri?
3WagerWei
4ei
6Investment
6Raised
6SMSVerified
6Tier0
:1
:2
:3
6Unverified
6ghtBonus
6s
4hitelistPurchaseWei
4in
5teList
6hWhitelist
7draw
;al
7outWhitelist
CPerUser
3_TotalSupply_limit
4amount
4bet
7_this_spin
4crea~_rate_per_second
6owd_vitas
4fortunes
5undingGoal
4goal_amount
4investment_eth
4raised_amount
4schrems_addr
5hares_to_sell
5upply
4users
4value
3bet
4uyinQuantity
3cap
3game
5s
3imalIndividualContribu~
9vestment
A@Treshold
7Participa~?
5umAdmin=
8lloca~PerParticipant
7BaseContribu~
8et
8idAllowed
8uyBack
>?InCents
FWEI
>^InCents
7Cap
8ircula~
8laim^Wei
8oinsPer!
8redit(b
7Deposit
7Ether
7Fee
8unding
>GoalInETH
7HodlDura~
7ICOCap
8coRate
8nWei
9dividualCap
9itialBuyout^(a
9vestment
AInWei
8ssuerReservedUnits
7Jackpot
7MainSaleRaise
7NumberOfLoops(aa
7PercentageOfDaysSupply
8oolPurchase
8urchase
?Frac~
7Raised
9te
8edeemable
7SaleLimitUnits
8ellable$s
8ubscrip~
9pply
7TNB
8arget
8oken
<?
<Issue
<Supply
<s
=ForFifth
Brst
Aorth
@Second
@Third
7ValueAfterGuaranteedPeriod
<DuringGuaranteedPeriod
<WithoutProofOf!
7WEI
3moneypercent
3number
3players
4rice
3tokens
2yGenerateAddr
3HaveLocked$s(b
3beChange^
5Update
3jaKill
3orCutPercentage
1crAmmountForGas
2tTotalSupply
1dtComparable
3Founda~!
3Reward?
3Team!
1e
2alIndexToApproved(a
;Owner(a
2dal=Of(b
6oost
:AndBurn(kl
5Data&
6ecimals
5Freeze(baa
5IfFreeze(b
5Name
5Symbol
5TotalSupply
6ransfer(ba
6ype(a
5UnFreeze
3ia$
:Index(a
:s(b
;DecimalUnits(b
;InitialSupply(b
;Name(b
;Symbol(b
5nize(h
5te(a
6ionExpiry
6or
8|
4um
6Buy
6Count
6Funding
6Mod
6^
6Rate
6Size
2etingDate
2ga
4Candy
9$
4Rate
4bossCutPercentage
3o!
2leeElementBySubtypeIndex(a
3on$
5port
3t(ba
4!(b
4Coin(ba
5rystals(h
4HorseShoe(ab
4$s(ba
4ing&
2mber
6!
=(a
=2index(b
7rray(a
7t(a
6Buy$
6&
8unt
6Data
:(a
6Fee
6Id
8(b
7ndex(a
8fo(b
6Keys(a
6Level(b
6ProfitShare
6Sell$(a
7hareCount
6s
7(a
8b
7Accts(a
<Index(b
7Count
7NLF(ab
7WhiteList
7hip
:(b
3cpy(aaa
3eData(a
4IndexToApproved(a
;Owner(a
3o
4ryFactor
2ntal=Of(b
4ors
2rchantAccount
8History
8IdHash
8|
4ulet&
8^
3ge
5(aa
6b
5Astros(bah
5Card(aa
5Medal(aa
7teorite(a
3kleRoot
6TreeRoots(a
2ssage
7(d
7Info(a
7Number
7PreSignedHashing(ubbaaae
7SpanStep
7s(a
9b
9d
8Length
8Signed(d
4iCommunity
5Dev
2t$
3a(ad
5dd
4BaseUrl
4data
8(a
9d
8&
8Hash
8Size
8Url
;Prefix
;Suffix
4lworksCities(a
3eorites(a
1frOf(d
1gmtBody!
8|!
4Distribute
4FeePercentage
4InvestProject(ba
5ssueBounty$(ba
4RewardPercentage
2r!(a
3Count
3Votes(a
1iaomiao
2croRate
5|PaymentBlockNr(a
Bs(a
;sAddrs(a
<IDs(b
2dEtherBonusLimit
=Value
3GradeCarsBought(aa
8Hold
8TotalSupplyForCar(aa
3Of(a
3TermHolding
4imeBonusLimit
<Value
3asAdvisorOperateMarketing!
5Deposit
<!
5Founder!
3dle?
6@stamp
3gradeOpen
2grate
7(a
8b
9a
:a
:b
9tt
8c
72(bttbb
7AccountRegistry(b
8ddress
8gent
8ll
:(g
;h
:owancesFromLegacyRep(gg
8mountBooks(b
8uc~(ab
7=(b
>s(g
?FromLegacyRep(g
8lock(caaab
<jack
8ooks(b
8yAdmin_DQV(h
7CatOwnersFromPrevious&(aa
8ontributors(g
8raft$Master(ab
9owdsale(b
7Disabled
8ungeon(aa
Aaaaab
7Euro$Owner(ba
7ForInvestor
8rom(b
=a
>aaf
8unds(bg
=g
7Gold(c
7Hero(ab
8olders(a
7In(ba
9vestor(baaa
?FromHost(b
?sFromHost(a
7ListManual(gf
7Manual(b
?f
=2(ga
8ileageLeader(eba
8ntp(c
8y$s
7Out(ba
:ByPayout(hfa
7Player(baaa
8resale=s(bbg
9iceLeader(eba
9opertyOwnership(<uint16[10]>
7REP
7Set
8inglePlanet(acaiciecb
8ome(g
8tateFromHost
7ThroughOneFork
8o(ba
9NewMinter(b
9ken(bb
<s(b
?b
=V1(ba
8ransfer(bbaa
7UserData
;s(<address[10]>
7V1Upgrades(ghh
8ault(b
7_game_balance
7d
8(a
9b
8Supply
7state
6ing
9?Books(bb
7on
9(b
;af
;b
9AccountCounter
:ddress
:gent
>Candidate
:llowed
9Chain(a
:ompleted
;untComplete
>er
9Destina~
:one
9Ended
9Finished
A@
9Gate
:etBoard(d
<Player(de
9Host
9Index
;fo
=Setter
;itiated(b
9Manager
;ster
9New!(b
9Period
9Receiver_setup
;wardTotal
9SetBoard(ddceb
<Player(dadbaaa
:tarted
@@
;ep(a
9Target
6or
2leStone(ble
4agePoint^
4stone
9(l
9Bonus
9Completed(a
;unt
9Reached
;cipients(a
9Shares(a
:tarted(a
:ystem
9s
:(a
:Count
:Length
3ieurs_per_eth
4on
4tary$
3lCap
4LeconteRate
4Raised
4WeiRate
4iPercent
5$sPaid
;Sent
5on
7Dollar$Reward
7InCents
2metype
2n
3(aa
3256(aa
34payout
364(ll
3AcceptEther
9ed?
APresale
;ETH
<th?
5tivated$
4llowedBetInEth
?$s
:ReservingPercentage
:StakeInPercentage
4mount
9(b
9ForDeal
9Presale
9ToGetBonus
9Wei
4pproval
3=ForAccounts
=TxFee
:ToAllow&Crea~
<Sell
4et
6?
6Size
6Val
6Wei
4id
6DifferenceInSzabo
6Multiplier
6Percentage
6Value
4lockNumber
8Purchase
4onus
5unty
4tcValue
4uy
6?
6ETH
6Limit
6^
6RateInPrecision
6$s
6able?
6ing?
9RequestInterval
3CDTToParticipate
4WCsPerReturnMoreThan
4ap
6Fail
6Ico
6Main
6Pre
6Reached
6$s
6USD
6Wei
5shout
4hequeValue
5ildCount
4ompanyValue
7osi~Fee
5ntrib
:?
:ute
=ETH
<ion
?(a
??
?ETH
?InUsdCents
AWei
?MainSale
?Presale
?USDc
@nits
?Wei
?_mBTC
6versionRate
5ordinatorCount
5unt
4rowdsaleAlloca~
4utValue
3Dai
4eposit
:InCents
:s(a
4iscountEther
4ona~
;InWei
4ura~
3ETH
6in
4atable
4ligibility
4nterFee
4steem?
4th
6?
6Contribu~
6PerNotifica~
9Transac~
6ToContribute
8Raise
6Value
6erCap
9ontrib
8ForAccounts
8Participate
3Fee
4innRequired
7eyPerHedge;
<SaleMoreThan
9ToKeep
4orExistingTopic
6NewTopic
6ceOffset?
4undInEther
7edValue
7ing
:?
:Goal
>Reached
>Wei
:Reached
3Gamble
6ePlay?
5s4Accts
6ForDrawing
6^
;ForDrawing
;Gwei
4oal
7Reached
>(ac
3HouseStake(a
4pDeducted
3Ico$Limit
4ndex(b
5itialMargin?
5vEth
6est
9BTC
9Cents
9ETH
9InWei
9ed?
;Cap
;Limit
9ment
=ICO
>nWei
=Limit
=PreICO
=Value
=s
9orCap
3Jackpot
:Bet
4ump
3Limit
5stingSeconds
4ot
3MaintenanceMargin?
5kerBetFund
5rgin
5xBuyETH
4illPurchase
5nBuyETH
6eSize
6tingPower
6utesPeriods
4onsterHit
3Nac
4um
6bPerSubscr
7er
3OVC
4rderEth?_
3Participants
5y
6Interval
6ment
:ForAnswer
:Wei
4erTx
6User
6sonalCap
4lay
4ot
6Sum
4reContribu~
6sale?
:Contribu~Ether
:Wei
6viewInterval
5ice
8ForMiningUpgrade
;NextRound(a
8InWeiForIco
@Pre
6vateContribu~
5ofit
4ublicContrib?
5rchase
;?
=t
;InEth
;Limit
;Num
;Once
;PreICO
;Qty
3QuanValues
5orum
9(a
9Divisor
3Raise
5ndomPrivilegeValue
5te
4eached
5q
6uired
;BlockQueue@
5salePercentage
6erve
5venueToDeliver
5ward
4ollUnder
3Sale
7?
7=
7^
4econdsBetweenPublishing
5lfBuy^
6l?
7^(Ya
7RateInPrecision
5nd
5t
4hare
4ignId
5zeInvest
4lippageFactorInBps
4pend
4take
7ing?
6nding=
6rtDelay
4uccess
5m
4wap?
3Threshold
<Units
4icket
9Eur
5me
4okParticipate
6en
8ForSP
8Purchase
@?
8Sale
8s
9ForSale
9Perc
9ToBuy
;Create
;Sale
5moContribu~
4rade
7ingStart@
6ns?
8ac~?
8fer
4x
5Size
3USD
3Val
6ue
81
82
8Pre
4eri?
4ote
7WeightK
7d$sPerc
7s
3Wager
4ei
6?
6Contribu~
6Investment
6PerContributor
6ToAccept
8Buy
8Purchase
6Value
6WhitelistInvestment
6ghtDeduct
9Punish
4ithdraw
;alCoolingPeriod
=Threshold
3_amount
4bet
5id
5uy_block
4contribu~
4fundingGoal
4goal_amount
4inv
7estment_eth
?presale_eth
4pay_wei
7ment
4refund_block
6quired_amount
4share_price
9s_to_sell
4tokens
4value
3ableSupply
3bet
4id
4oc
3cap
4ontribpresale
<ivatesale
;ublicsale
3e
4(a
5ba
41000(a
4=
;Arry(a
4Card
5ount
5rystals(a
4IsBigger
4Phx
5ool
4Salary(a
5oul
4$(a
6tal=
4_jade
4ableSupply
8$Storage&
=s
4blocksAddr
4d
5(b
7a
5Block(a
5$
:(k
:Cap
;ount
:Start@
:s(a
7talSupply
5_blocks
6coin_supply
4it(ba
4r
5!
5CreatedCount
6urrentChallenge
5Difficulty
5Lock!
9@
9ed?
5Num
5PreSupply
8@
5RandomNumber
6elase@
5SaleCount
6tate(a
5@OfLastProof
6okenPayouts(b
:s(b
7talReward
:Supply
:@
:Years
5al
5eum
5s(a
4s^(a
4th
3finney
3iMe$
4mal
7Cap
8ontribu~
7ETH
8ther
<s
7Freeze
7Goal
;Reached
7Investment
AInWei
7PaymentInWei
8rice
<USD
7Rewarded=
7Success$s
>USD
AWEI
7$
<s
7Value
7Wei
:TLP1
=2
7_token_sell
5owea
5um
7AllowedWei
8mount
=Required
=ToParticipate
=Wei
7Bet
:?
8id
:(c
:Allowed
;mount
8ounty
8uy
:?
:In
7Cap
8ommission
9ntribu~
CPhase1
H2
H3
H4
H5
H6
DresalePhase1
O2
CWeiByOneInvestor
9st
7Deal?
8ifficultyThresholdWei
8ura~InBlocks
7EntryThreshold
8ther
<?
<Commission
7Fee
:Percentage
;lusDividends
GPercentage
8unding?
>CHF
>Goal
>USD
7Goal
;InWei
7HydroStakeDelegatedUser
AUser
7ICOCap
8coRate
8nWei
9vest
=ment
AInWei
7MainSaleRaise
9kerProtocolFee
7Number
=OfBlocksToEndGame
?$s
7PRETDEContribu~InWei
8articipa~
D?
9yment
:out
8erTransac~
8ledge?
8oolPurchase
9werUpSizeBabz
8repaidClaimedPercent
:saleWeiDeposit
9ice
<Count
<InDailyAuc~
8urchase
??
?InWei
?Limit
?Value
7Quorum
7RewardWithdrawalLimit
7Spend
8tageDura~
:ke
8upply
;ort
7TDEContribu~InWei
8akerProtocolFee
9rget
=Reached
8ickets
9meBeforeUpdate
;out
8oRaise
9ken?
<Commission
<Threshold
<s
=BeforeSale
8ransferInWei
7Value
7WEI
8ager
8ei
:?
8itcoins
:hdraw
7_bet
9uy_value
8cash_proof_amount
8deposit_amount
9ona~
8goal
8investment
8payment
8token_sell
6nBTCToInvest
7Eth
:ereumToInvest
4ng
6(ba
6Active
7ttempts(ab
6EveryDay
6Finished
8ve
:Plat
6Incentive$s
?|
6King
6Leader
6One
9Free
9Plat
9Self
6Rate(a
;b
7esolve(aa
8ward
6Storage
6Target
7en
9Plat
7hree
;Plat
7imePerTrip
7oken
;LeftInCurrent
;s(a
<Of(b
6lock
5umContributeUSD
AWei
7Purchase$Quantity
4umInvestment
3orEditsAddr
5OwnerShares
5Partner!
5_partner_address
3price
3signupeth
3t
4(<ProposalLibrary.Entity storage>ba
5Ebaf
5Qba
5a
6acedd
6b
6c
7aab
7j
6d
5b
6a
7<int16><int16><int16><int16><int16><int16>a
7a
8a
9a
:aa
7b
8c
7c
8aaaaaa
8coo
7e
7f
8i
7i
7j
6ba
6c
7d
6d
7a
7doj
6i
6l
6m
6n
5c
6a
6c
6qaib
5d
6ad
6b
7a
5g
6h
5n
40(ba
4A
5RC(ba
5ddress
6visor$s
;s$s(a
5fterIcoPeriod
9Sale
5gent
9s
:(b
5irDrop$s(ag
7drop(ba
;$(a
5ll(h
7Bonuses
7oca~(ba
>s
5mount1
:2
:3
:4
:5
5ndAllocateZCO(ba
7Call(bajj
8reatePreIcoBitex(bb
7Freeze(bal
7Lock(baa
7;(ba
Bj
5rray(gh
5side$s
5uthorizedBatch(gh
CWith=s(gh
4B
52BC(ba
5IX(baaa
5adge(a
:ba
6se
8Locked$s(baaa
6tch(dddddb
:gh
5onus(b
9$sForGames(a
6ol
7ster(bieeiK
6unties
<(b
9y
:(ba
;gh
:$s(b
:tokens(b
5uyer$(ba
5yMintable(ba
6Owner(ba
4C
5apIn$s
6rd(ab
9b<uint8[14]>
8s(hb
5hest(bkKKee
6ip(d
8Unsafely(ad
5lose
5oin(ba
8s(ba
9ForOldCollectibles(bab
6mmunityRewards
6ntractByIndex(a
9ibutors(g
6olDown
6re$(g
6unt
9ByTemplate(a
4Data
5epositAccount
6velopmentTeam$s(ba
5igitalArt(c
5one
4ETHRewards(ba
5di~Cards(bee
5nabled
6d(f
7Year
5therBro
5xtended$s
7ra$s
4Fee
7Denominator
7Flat
7Numerator
7$s(a
5inalize(ba
7ish
:ed
6rst$s(bah
6sh(gwppp<bytes16[]>
5or(ab
8ba
7ContributorPool(a
8reatorsPool(a
7EarlyInvestors(gh
8verybody
7Investor(ba
Ba
7Market(ba
=ingPool(ba
7PrivateFiat(ba
7ReportingParticipant(a
Lba
7Sale(ba
9mpleRegitry(bi
7Worker(ba
7Year(ba
7warder(adb
@g
6under$s
5romICO(ba
8Trusted&(ba
7zen(ba
5ull(ba
6nd(ba
8s$s
4Gem(acafa
6n0Spinners
5reen(ba
7y(ba
4Helper
4ICO$s(ba
=FromExternal(ba
5ced$(ba
6oEnablers$s(ba
7$Multiple(gh
5nCurrPeriodCount
6PeriodCount(a
6itialSupply(hbbb
;$s(ba
6terest(a
6vestor(ba
5ssuer$(ba
4Land(bucccc
5imit
9ByTemplate(a
6quid$(ba
5ockPeriod(baa
>Batch(gha
8Up$s(b
8ed(ba
:Proposals(b
:$s(a
Abaa
8up$s(baa
6ngTerm$s(ba
4MAN
5anual(ba
7y(gh
8To(bchh
6rketing(b
?a
=$s
6ster
5edal(a
5igra~$s(ba
6niICO$s(ba
5ode
6re(b
5ulti(gh
9ple(ga
4NewDNC(ba
8rawings(a
7Spinner(aaa
6xtCard
4OWL(ba
5bizcoin$s(ba
5nDemand(ba
5pen
7ra~s(a
5ther(ba
5wner
4PCD(ba
5ack(adddddddddd
8SaleCard(eb
6rtOfEmission(baa
8icularPart(<uint8[4]>b
8ner(ba
;WithLock(baa
;s(a
<hip$s
8s(kb
5erBlock
5reAllocated$s
7Sale(ba
;$s(ghh
7defined$s
7ico(ba
7sale(ab
<ba
;$s(a
Bba
;WithBlock(baaaa
6ice
9Buffer
9Offset
7vate(ba
6omoEtherBro(k
7posals(b
7xy(ba
9WithoutCap(ba
4RandomCards(bee
6te
6w$s(ba
5efCredits(ba
7s
8(d
6p(ba
7uta~(abb
6serva~(gh
?$s(ba
:e
;(b
;$s(a
;d$s
7ource(ka
6ward$s(ba
4Sale$s(a
5elf
6q(g
5ilc$(ba
5old$s(ba
5pecial(cceaa
9ficCard(bea
@s(beh
5tart
9(f
91
92
93
94
95
9Year
7tus(ea
6ep^
5ub(ba
6pply
4Tap
5eam$s
>(a
6mplate(aaaac
5icket(bc
6melocked(baa
Ai
8s
5o
6(ab
7ba
9a
8caa
6Account(ba
7ddress(ab
=es(ga
?And?s(gh
6Client(ba
6Founders
6Influencer(bac
6Many(gh
6OtherCoinBuyer(bac
6SpecialFund(b
6TeamAndAdvisors
6ggle(f
6ken
9(<$Lib.$Storage storage>a
:a
;bade
:ba
<a
;ba
9Bulk(gh
:yMinter(ba
9Direct(ba
9ForPreCrowdsale(ba
>ivateInvestors(ba
9PreSale(ba
9Rewards(ba
9WithUnit(ba
9s
:(a
<b
=a
=b
=f
;b
<a
=a
=c
=ed
;g
<h
:1(baad
:2(baa
:Batch(ag
;yETHExternal(ba
:External(ba
:For(ba
@a
=Command(ba
>rowdsaleParticipants(gh
=FirstStage
:Locked(abaa
Aba
@Multiple(aghh
:Multiple(agh
:ToEralyInvestors
:WithApproval(bab
>IncludingInJackpot(ba
>@BasedVesting(baaaa
>in@(ba
6tal
5ransfer(baaa
=dadb
6easury$s
6usted(ba
4UnICOLeft$(bbb
6derCap(aa
6lock@(baa
>Batch(gha
6releasedCard(eb
5pto(ba
8Cap
5serAdop~$s
4Value
5ested(baaa
:$s(balllffb
4|s(bbbbbbbb
5ithLock(baaa
<ed(baa
8Memo(cba
:tadata(bac
8@Lock(baa
4_Crowdsale(b
4able
8(a
9b
8!
9mount
8Supply
8$
=!
5rget
4buy(ba
4coin
4ed
6(b
6Cars
7oins
8untForChecklistId(e
7rowdsale
6Directly
6GBT
6List(a
6PercentOf$s
6$s
<Cap
6|s
6tokens
5r
61
62
6!
7llowance(b
6Changeable
7ontract
6FeePercent
6GivesCWC(ba
6|
6_address
6s(a
8b
4ing
7Active
8gents(b
8llowed
7BountyFinish
7Cap
8ompleted
9ntract
?!
7DataUpdatedAtBlock
8ec
8isabled
8one
7Enabled
7Factories(a
8ee
:Enabled
8inish
=ed
?@
8oundersFinish"

end Listing
end EvmFlow
