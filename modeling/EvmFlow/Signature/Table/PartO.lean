/-!
# Known signatures, part O
-/

namespace EvmFlow
namespace Listing

/-- Known signatures from `stepOneEndTime` to `transferSubcontractsOwnership`. -/
def partO : String :=
"0stepOneEnd@
7LockEnd@
7Rate
7Start@
4^
6ofit
4TwoEnd@
7LockEnd@
7Rate
7Start@
4UnlockInfo(a
?e
4VestingDura~
;Percent
4_level
5pay
4code
4s
5(a
3rile(a
6ize(h
2illAllowed
<Readable
6vailable
3tch(<CLL>aaf
<mmf
2ock
5(ccac
6d
5AvailableQuantity(d
5BuyCertainOrder(Yaaaa
Eaaaa
8Order(Yaaa
>aaa
5CancelBuyOrder(Yaaa
Daaa
;SellOrder(Yaaa
Eaaa
5DeleteFirstOrder(Yaaf
5MaxBuy^(Yaa
6inSell^(Yaa
5^(d
5SaveOwnerInfo(Yaabba
6ellCertainOrder(Yaaaa
Faaaa
9Order(Yaaa
?aaa
7t
6hares(aa
5$s
6ransfer(baa
5s(a
3p
4(d
5f
4AcceptingDona~
5ddresses(b
=Total
5irdrop
;(f
5t
5vatarCrea~
4BatchAssign
5et
5lock
9jack
5onusCompaign
6unty
:Mint
5uy
4Collec~
6ntract
7vert$s
5rowdSale
9funding
9ing
9sale
=@
4Date
5efrost
4EmergencyWithdrawal
5nrollment
5verything
5xchange
4Feeding
5lagOff
9n
5orce
5unding
4Game
8OnNextRound
5o
5racePeriod
4ICO
7_20_March
5co
7(b
7AndBurn
7Phase(a
5nEmergency
5ssuingIndividual$s
5t
4LandEthSale
5ist(a
6ve
5ottery(f
4Market(i
6tchBetting
5igra~
6nt
8ing
;(c
5ulti
4Offering
5pera~
5raclize
4Payouts
5ortalGunAndRick
6stIcoAndBurn
5reICO
8co
:AndBurn
:Mint
:_step1
?2
8oc
7Sale
7sale
6ivatePlacement
5urchase$s
4Queueing(a
4Redeeming
6fund
:s
5ound(f
4Sale
8Type(e
8s
5econdSale
6ll
8ing(a
;Genes(a
6ndWebGift
6t^
7up
5tage
5weepStake
4Take$
5de(f
5eam$;
6st
5ge(f
5hinking(a
7sIco(f
5ime
8Length
5oken
9Minting
9Swap
9;
5rade
8ing
7nsfer
<$
<s
4Update
6grading
4Vote
7ing
4WhitelistReserve~
5ork
4_it
5or_resume_&(f
5sell(a
5token_time
4pCrowdsale(a
5able
5ed
7Presale
7Sale
4sale
5ell
4transfer
3r
4ageAddr
;ess
7&
<oller!
7ForHash(d
7Name
7Step
7@
4e
5(aa
6b
7b
8dddddddd
6c
6i
5!
6uthenticity(c
5BlockHeader(j
5CarrotsCredit(bi
6laim(kba
:Seed
>(b
5Data(fabdc
:oooo
6oi(dd
5Eth
5HarvestOpera~(ccikkc
EByRegulator(cccikkc
7sh(d
6orsey(babdee
5Id(ba
6mageString(c
6nitialClaim(bNaf
5Key
5Name(ac
6ewVesting(bca
5Op~s(ba
5PrizeMoney
7oof(c
;d
5d!es(d
7mount
6DataInBytes
6Value
5house(d
:Index(a
5s(d
3x
2rCompare(cc
5ncat(cc
<c
=c
>c
3Equal(cc
3FundDeposit
3ToBytes(c
3a2cbor(<string[]>
4tegicAllocated
@ion
9Lockup
9PartnersPools(a
9ReserveSupply
4y$
3eamer&
@Max?
6ity&!
9;s(d
3ike
6Call
6^
;PctX10
7ut
6rsBase&
8Checklist
8Metadata
4ngContains(cc
6Equals(cc
6IndexOf(cc
6Storage(d
6To!(c
8Bytes32(c
=5(c
=64(c
8SignExample
8Uint
<(c
8bytes32(c
6ify(e
3len(c
3ongHands(b
3uctureIco(a
9PreIco(a
2udioHandler(ba
6Level(b
3ff
1uSquares(a
2b(aa
4ba
4mm
31(aa
32(aa
3Allowance(bba
4pproval(ba
3=(ba
:s(gh
4ountySupply(a
4rokerNum
4uy(ddb
9db
3CoinAllowance(bba
7=(ba
5ntracts(e
3Dev
6One
6Two
4omainOwner(cc
3FreeMineral(b
7zing^
;@
4undAccount
7=
7Precent
3GlobalBlockValue=(a
3LockValue(ba
3OnHold(a
4wners(b
3Payees(da
4rivateSale(a
3Registrar(c
;~Period(d
3Segmenta~(baaa
3$=(ba
8s(da
5talSupply(a
5urFreezing^
?@
3UserBattleValue(baf
3Withdraw(b
5zard
3divide(affaacc
7sionEnabled
4omainOwner(cc
3jectMatters(a
3missionPool
;rice
:_stage_block_size
:s(a
5t(cliid
7dd
9d
6Ac~(bae
7ddOwnerTransac~(b
7nswer(dda
<ByArbitrator(bddb
Iddb
<Commitment(ddab
<Reveal(ddaa
6Ballot(dd
<NoPk(d
<WithPk(dd
7id(<InteractiveCrowdsaleLib.InteractiveCrowdsaleStorage storage>aaa
:aa
7racket(d
6Choose(a
7laim(<>aaaaf
<aaaaaf
7oding(ca
8in(bc
8unterStack(daaaaa
6Entry(jc
7ther(b
;Proposal(ac
6HKGProposal(ac
6ImpeachmentProposal(cb
7nput
7ssue(a
6Loca~(ae
6Message(c
6New&(cgcd
8xtStage
6Payment(ui
7ool(<PresaleLib.Data storage>a
;a
;ba
7rice(aa
8oof(d
9posal(baa
9xyVote(<BBLib.DB storage><bytes32[5]>j
FV7.DB storage><bytes32[5]>j
Abytes32[5]>j
?Always(<BBLibV7.DB storage><bytes32[5]>j
6Redeem(a
8moveOwnerTransac~(b
8sult(ah
7ing(<address[2][]><uint256[7][]><uint8[2][]>Gpoobb
[t8[2][]>Gpoobbf
D3][]><uint256[7][]><uint8[1][]>Gpooak
D4][]><uint256[6][]><uint8[1][]>Gpoobk
:hash(abpoo
?bd
6Signature(jj
7olu~(ac
?p
7tack(aaaaaf
8eak(bd
6$Transac~(bba
;s(b
7ransac~(ba
Dcj
Dj
Ea
Cbaaj
Ej
AWithSignatures(bajapo
6Value(u
7ideo(cc
7ote(<BBLib.DB storage>dj
AV7.DB storage>dj
;adj
<f
;dd
:Always(<BBLibV7.DB storage>dj
6Withdraw$Transac~(aba
?ransac~(ba
6_model(baahBB
6ted
9?
4od(aaa
3s(bb
5d
4cribe
9(aab
:baaa
;ed
9Me(ed
9ToPool
9rs_TO_HATCH_1CraigGrant
8~Littafi(acc
7p~Counter
<Details(a
<Of(bb
<Rate
<Status(a
<s
=(a
>b
4idyHalvingInterval
4tituteManager&(b
5ractLocked?(a
6ing(caaaa
3total(b
4r=(ba
5Investor=(ba
5ReferralDeposit(ba
5act(a
:a
9ba
8Ac~(dh
9mount(baa
8Safely(aa
2ccess
7AtBlock
7Fee
7ed
8sOf(b
7ful
:Deals
:Funding
:PreSale
:@
;ransac~s_
:ly_closed
7or
9(bb
9!
3essor
2doEnabled
4Propose(b
2ggestedAd^s(a
2icaId
4ide
7&
7Send(b
2m(h
3AcceptedContrib
;VirtualContrib
3Dividend
3Elements(<uint128[] storage>
B6[] storage>
A256[] storage>
A32[] storage>
A64[] storage>
A8[] storage>
3HardCapICO
=1
=2
:PreICO
@1
@2
@3
3ICO
61
62
4nvested
3Multiplayer
3OfWeights
3PreICO
91
92
93
5ice
3Vote
3Wei
6ghtOfMulti$(b
3bitForElec~
3mAdvisors
5irdrop
4Bilborough
5ounty
4Cashwolf
4DividendReserve
4Eccles
4Founders
<Share
5utureInvest
4Jenkins
4Leskiw
4Partnerships
@AndExchanges
5remineBounty
6ivateSale
4Reserve
;Fund
4Supporters
4Team
4ary
4on
610
8SkinAppearance(a
Hn
2nFinished
3down
3rise
3set
6WithdrawDate
>alPeriod
2per!
7min
:s(b
;ForIndex(a
6pprove(bba
5&
5Dragon(a
5Feed
5Investor(b
5Mint(ba
<a
9Bulk(gh
5NovaSupply
5Owner
5Players_(a
6owerFulDragonOwner
6rivilegeCost
@unt(b
5;(bgh
=From(bba
5VoteAgree(b
5man
5novas(a
5visor
3plement(a
5ier
8s(a
7s(a
5y
6(a
6Adjuster
7vailable
6BezNolei
7urn(a
6Cap
6DAICO
6Exponent
6ICO(b
9&(b
7nCircula~
6LeftAtOrigin
7imit
7ocked
<A
<B
6Multiplier
6Num
6Of(c
7nAllChains(a
6PICO(b
7erColor
6Ready
8serveVal
7ound1
;2
;3
;4
6Seed
6To(ba
8kens
<Saved
6_cap
7increased
6limit
;set
4ort(aa
7Account
>s(b
8ddOn(ka
:ress
7Component(ka
7FreezeQuorum
7HarvestQuorum
7Impeachment
7KickoffQuorum
D(a
7List(b
7Message(a
7NewMoon(b
:Purge(ba
:Voter(b
7Rebalance
9cord(a
7Team(aaa
8oken?
7_ban_of(b
8proposal
7ed(d
9&s(b
9$s(b
?Mapping(b
8r
9=s(b
9sMap(b
7hill(a
7sEIP20Interface(s
8History
8Interface(s
8$(b
9radingPair(bb
Fd
2rplus
7$s
4risePanda
3render
9(bda
:d
3veyEndAt
2spend
7(a
8b
7Deposit
7Game
7Sale(f
7ed
9ExternalPayments(d
9Payments
9Until
1wap
4(<!List.Data storage>bb
6Data>bb
5a
6baaedd
5ba
6baa
5d<address[5]>Redd
6d
4Able(f
8$
5ctivity
<Handler
5ddr
4CardForReward(be
5ontract
<s(b
4End@
5therTo$(ba
4Fee
5or(b
9abaaedd
4Open
4Project(a
7xy$s
4Rates(b
4Storage
4@
5oken(a
:b
9Info(b
9ToEther(baa
;$(baba
9s
:(b
;gh
4_able
4ed(b
4ped$s
4s(a
6bb
7r
5For(b
3rmFund!
5Redistribu~(ba
5Tree
9(a
2eep
5(b
7a
7ba
7d
5Account
5Commission(a
5Funds(ba
5ToOwner
7ken(b
:?(ba
:s(bb
5erOf(b
5sCrea~@
6State
2ipe(b
3tchAdmin(b
7irDrop(f
6BleachAllowed(f
6ClaimerAndRemoveOldOne
7ompatible20(f
A23(f
Cex(f
7rowdSaleStage
6Delegate(f
6FeePolicy(f
6LPC(b
7ightPool(b
8quidity(f
6MPO(bb
7anagerAndRemoveOldOne
6OFFfreeForAll
7NfreeForAll
6Paused(f
6Rankings(ellllll
?kellllll
7ecycleAllowed(f
8serve(b
6Sale
:Auc~ERC20For(ba
:Stage
=te
7plitBonusValue(bf
7tage
9tus(f
6ToDistribu~Mode(a
8NextPeriod
<Round
8WhaleMode(f
7ransfers
6Upgradable(f
<eAgentLocked(f
6_period
2ordLevel(b
2pFund
7Deposit
2ypeCode
9(b
5s
6(b
1xpNumber
1ybmol
2c&
4rowdsale
2mbol
6(b
8d
6Locked
6_
6s
7(a
7Count
2nc(b
4Date
4Funds
4List(b
4sync(bf
3dicatePrecision
9$sWithdrawn
3thesize(<uint16[5]>
Fa
2s
3FeePermillage
3Per
4rice
3temAcc
7ddress(b
=es(bb
7uc~Dura~
6ClaimAirdropMultiple(g
7reatedCount
6Ending^
6OnSaleCount
6Sale!
7tarting^Min
7upply
6Withdraw(bl
0t
10special
12tokenExchangeRate
13tokenExchangeRate
14tRaised
3$
18ex$
1BonusStageEnd
1CampaignEnd
9Start
1Finalized
1Instance
1RegSaleStart
1$s
1_1st_StageEnd
22nd_StageEnd
23rd_StageEnd
2Andrey
82
2ImmlaBounty$Depository
7$Depository
F2
2Michail
92
2Slava
72
2wallet
1a
2b
3(d
3le^s(a
5Size
6takesOp~s(a
5t_length
7owner
6s(ba
3sOneEthCanBuyICO
2coPoolTotal
2dpoleReq
2g
3line
2il
2ke
4(a2
5ba
5dn
40xTrade(bbajj
4AGuess(a
;e
5ll
7NotClaimedForRefundMoney
7TheMoney(b
5way(bb
4Back(aadedd
8NTRY(bba
5et(abaa
5ounty
:$s
5uy(baab
7Order(baaab
4Collateral(b
6ntrol
4Eth
7ForExchange(a
7er
9(a
:ba
9Back
9Profits
5xcess
4Fee
7(a
9b
8bac
4ICOInvestmentsEtherCommission(b
5nvest
:ments
4MyMoney(d
4Number(a
4OffItem(ae
>b
7er(a
5rder(aa
<a
:b<address[5]>zdedd
;aa
:faa
9s(hh
5ver
5wnership
=(a
?a
?b
=FeePercents
=Multiple(h
=WithIndex(aa
4Posi~(a
5rize(ia
6ofit
7jectBonus(ba
7mille(aa
4Region(k
4Sell(baab
8Order(baab
5napshot
<(aa
=b
4TheTorch(b
5oken
9Profits(b
9s(ba
:Back
:ForBacking(ba
4UpWork
4daily(b
4nNicknames(d
5Profit
4offer(aa
5ut(a
4r
5AffiliateFee
5BuyAsset
5Fee
8Percent
5SellAsset(a
4tokendaily(ba
2lkToWorld(c
4s(d
2n(acc
3k
4Allowance
4ImposedMax
4Out
4Sizes(a
4sBeforeTheNewTankType
2p
3(r
3Fab
3Poll
2rger
5t
6(a
6Addr
:ess
=(b
7mount
<(b
6Block
;Number(a
7ondingRate
6&
>Id
7rowdsale
6Demographics
7iscountValue1
D0
C2
C3
C4
C5
C6
C7
C8
C9
6Eth
6FeePeriodDura~Seconds
7orEpoch(a
7romBits(i
6Mo~ID(b
6^(a
6Reached(a
6Supply
6@
7oAchieve
8ken
6User
6|
<Verified
7ei
6_hit
6s(b
8s
3ifOf(b
2skByHash(d
4Ids(a
4ProcessedNoCosting(a
=WithCosting(aa
4Rejected(aa
4Total=
4s(a
5Count
5Size
2talEthFromBuyer
2u
2x
3!
3Collector
3FeeBps
3Man
3Paid
7(b
4erc
3Rate
7Numerator
3TillNow
4oken
8Created
4ransfer(bba
3Value
3|
3lvlEconomy(ccccc
3man
2ylor$
1b
1c
1d
2eActive
3Dura~
3FundsRaisedInWei
3Issuer
3Start@
8ed
1e
2Foods!
2am
4(a
41
5!
5=
5LockEnd@
5$
42
5018$Created
79$Created
5!
5=
5LockEnd@
5$
43!
5LockEnd@
5$
44!
5LockEnd@
5$
4Account
;!
5ddr
8ess
;Freeze@
;One
;Three
@$s
<wo
;es
=(a
>b
6v$s
7isorsReserve$s!
5lloacting
8cated
=@
;ion
>(b
>$Send(ba
>s
;or
8wance
5mountLeft
:s
5ndAdvisorsAlloca~
Is(b
7Experts$s
7Founders
?|
5rray(a
4=
;Map(b
;Of(b
5onusAllocated$s
9es(a
4Cap
5laim(a
9ed
6iff
5ompanyLock
6ntact
5up
4Date
5istribute
4ETH!
7Unlock1
=2
=3
5mail
5nd@stamp
5th&
7;Complete
5xists(a
4Fee
5rozen=s(bl
:$s
5und
8!
8s!
4Grants?
4Hold?
8er
4IndexToApproved(a
;Exist(a
;Owner(a
6stantSent
5ssued@stamp(b
4KeepingLockEndBlock
;PerEpoch
>centage
;Quota
;Supply
;Withdraw(a
4Limit
5ock
8Addr
8PeriodInSec
8@(b
8Up
8ed
:(b
9r
4Map(d
5embers(b
5ultisig
4NIMFA!
5ame
7ingIncome
5um
4One
7DivsTotal
;Unclaimed
7Id
7Members(a
7Prefix
7Share^
<s
7TotalPlayers
7Volume
5wnerOfPlayer(a
9s(a
4Part
5ercent
;age
7iod?
:Length
:sNumber
5ool!
8ForFrozen$s
8Instant
6t_
5rizeClaim(a
6ofit!
4Release(b
;d
6serve
;(a
;Alloca~
;@Lock
<okens
ADistributed
;|
6verse(b
6ward
4Share
9Percent
5tageSetting
7kesFrozen
6orageVault
5um
6pply
:12Months
;8Months
:24Months
:6Months
:!
4@Lock
<1
<2
8lock
5oApproved(a
6ken2018
<9
9!
:lloca~(a
:mount
9Bonus
9Fund
9Holder
9Ratio
9Supply
9@lock
9Vesting
9|
9s
:Account
;ddress
;llocated
:Cap
;urrent
:Delivered
:FirstShare
;reeze(b
:Generated
:Holder
:Initial
;ssueDate
:Lock
>!
:Minted
:NotDistributed
:PerPeriod
=cent
:Released
:Vesting
:|
6tal
9Supply
5ransferFreeze
6ustAccount
5wo
7DivsTotal
;Unclaimed
7Id
7Members(a
7Prefix
7Share^
<s
7TotalPlayers
7Volume
4Unfreeze
<Date
6lock1
:2
:3
:4
:edAfterCliff
6vested
5sed(b
4Vault
9Addr
5est$Alloca~
8ing(gh
;2Years
;4Years
;!
;&!
=unter
;Stage
@s
4|
:1
:2
:!
:_1
;2
;3
;4
5ithdraw
<Supply
<alProposed
>Recipient
5on
4_(a
5accounts(a
6ddress
<_count
<es_idx(a
?token_percentage(b
6nd_angel_beneficiary
5coins
5fund
9s
5lock_count
5release_epoch
5token_percentage_max
Ftotal
7tal_lock_days
5wallet
4a
4b
4c
4d
5istr(ba
4e
4lock
4s(a
6b
6d
6i<uint48>
5CreatedCount
5Ids(a
5OnLeaderboard
5Reward
5|
4value
3rDown
2ch
4Account
4DevelopmentEth|
4Provider
4Support
4|
4nical?
9CommunitySupply
;ntract
5ology&
:Share
2lcoin
3egram
4port^
8$
3l(a
4Previous&(b
4@
4erIndex(a
6Moderators(b
2mpAdvisorsTeam
5rray(a
4Charity
4Locked!(b
4Mngr
4Player(a
4$s=Of
C(b
:PeriodOf
B(b
4lateIdOf(a
8Proposals(ba
8Supply
8_hashes(a
8s(a
:b
9OfOwner(b
4oraryEscapeHatch(baj
9Kill(b
2nDecimalPlaces
3End@
3Zero
3_wallet
3ant
3th@
6otal
5ousandths
4imes
2rminate
9(a
9Alt
9&
:rowdSale
9DirectDebit(b
9Employee(bie
Diie
9Ico
9Liquida~
9SelfDestruct
9$Lock
>Sale
9d
8ion
;@
4s(a
5AndCondi~sAreSigned(bedd
Ledd
5Number
3raformReserve
2st
4(a
6a
5c
6c
41
42
43
4BadWithGoodInterface(baba
4CanDeposit(b
7Trade(bb
5onnec~
6py(j
8!(b
4DAO
5istribute(agp
5rip(bba
4ExchangeRate(a
4Fee
5irst(j
5unded(a
4Hash(c
4IsData(j
6Empty(j
6List(j
6Null(j
6Op~PairRegistered(babaa
5tem(j
8Strict(j
8s(j
4Mode
4^(a
4Recovery(dedd
6moteWithdraw(aaaabbeddb
6vert
:Tx
4SandwichOrder(ab
5tate
5ubItem(ja
4To!(j
6Bool(j
7yte(j
:s32(j
6Data(j
6Int(j
6Uint(j
6kenA
5rade(<address[4]>2eddabf
:babaaabeddab
4UnlockedDay
4ValidateTrade(bbb
4Wager
5ithNewPath(g
4_assert
5data(aa
5require
5suicide
5withdraw
4call(b
4hash(aa
4ing
7&
7SelfDestruct
7$
7_parti~(a
4netAddr
7Withdrawn(a
Aba
4rc(dedd
4wallet8
2therCount(b
2xt
4(dc
1ge
3Active
3Cap
4urrentPartInvestor
3DateStart
4ura~
3Issuer
3Live
3NextPartInvestor
3SetLive
6tings?
ACollect
;BlocksPerStage
;ChangeRequest(aaaaaaa
;MaxStages
;PartFounders
?Investor
GIncreasePerStage
?Project
4tageBlockLeft
6rtBlock
8@
2r?Collected
3Contributed?
4urrentPartContributor
:Stage
3Live
3NextPartContributor
4umber
3SetFinished
6Live
6tings?
;BlocksPerStage
;MaxStages
<inimalContribu~
;PartContributor
JIncreasePerStage
?Founders
?Project
4tageBlockLeft
6rtBlock
1h=s(ba
2ankYou
8(b
5sAllGenesisUsers
3w
4Account;s(b
5ddress(b
4Global;s
4$;s
5ransfers
2e120address
3365address
3!
3Bet(aaa
4id
3Camp
4yberMessage(c
3Deal(a
4ividendsOf(fb
4onkeyKing
3Games(a
4rid(a
3Investor
3List
7(b
3Pot
3Richest
5ver
4un
3Turn
3Winner
9number
7ingReferral
3_address_for_op~_A
GD
4nominal_annual_interest_rate
3bank
3medSpinners(a
3simplegame
3ultimatepyramid
3whalegame
2ing(ccec
5Exist(o
5s(a
4kLength
5Mode
5TankFund!
3rd
5Bonus
:Ends
:Percent
:SalesEnds
5ChainETH
8ngeBlock
7eckpoint
?^
6urrent?
5DiscountCap
=^
6ueDate
5ExchangeRate
APeriod
7tendedBonusSalesEnds
5Level^
6oos
5Max?
5PartyInvestments(ba
7y
6eriod
;OfICO
6lacePot
6reSaleDate
<EndDate
7ice@
5Rate
6elease
7wardPeriodEndBlock
APercent
6ound@
5Stage
:Minted
>ing
ADate
:$Rate
8rt@
5TeamWithdrawal
6ierDiscountUpperLimitEther
7me
9Line
6okenExchangeRate
5Wave^
6eek
9Bonus
>InWeek
9MainICOBonusEstimate
9$^
5XRChangeBlock
5_bonus_amount
6partner_address
6whitelistSupplier
5roundprice
4tyPercentWithBonus
6_wallet
3sAddr
8ess
4=
4Contacts$s
8ract
<!
<=
<$=
4IsFork
4_tablet_name
2ousandtimes
2reads(a
4eMillionTwoHundredThousand
4shold
9(a
:db
91
92
9?
9EtherLimitForSeedRound
9NewAuc~
<$Pair
9s(a
:ByState(a
3owIn
5Me
5OnGasRefundFail
7Incompatible&
5Scraps(a
6lammer(ddd
1ick
4(<Game>
:Lib.Game storage>
4Dura~
4RequiredLog(<GameLib.Game>
@aba
4er
6!
6Query
;Data
6Registry
5t
61price
6Counter
6Holder
<Reward(a
6Mag
6^
;(a
;s(a
6;ees(ba
A?(b
?rs(ba
A?(b
>s(aa
??
?Per?(a
6_address_added(b
>es(a
7price
6s
7(a
9a
8b
9a
8sa
7100kprice
:price
9kprice
9price
8kprice
7Available
7FaceToFaceSold
8or(ab
7Map(ba
7Num
7Of(b
8wned(a
<ByUser(b
;rs(ba
7Sold
;(a
7_bought(ca
7available(b
4ingBomb
2e
3Funds
3r
40(b
5LOT
5Total
41
5(b
5Count
5End
5LOT
5Rate
6eached
5Start
5@stamp
6otal
42
5(b
5Count
5End
5LOT
5Rate
6eached
5Start
5@
9stamp
6otal
43
5(b
5End
5LOT
5Rate
5@
9stamp
6otal
44
5Rate
5@
45
5@
4?Caps(a
4Budget
4Cap(a
7s(a
5ontract
6unt
4End@(a
4IndexByWei?(a
4Level
5imits(a
6st(a
4No
5um
4OnePurchase
4Rates(a
4ThreeMin
9Purchase
9Rate
5oMemberIndexes(aa
6kens(a
6tal
5woMin
7Purchase
7Rate
4_cap_1
92
93
94
5rate_1
:2
:3
:4
4s(a
6k
5Initialized
2leDrop(g
4@out@stamp(ab
4s
5(a
7a
2me
4(a
41
42
4AfterSoftCap
5rrayOf(a
4BasedBonus(a
5eforeJackpot
AReset
6tweenEdi~s
;Games
;Rewards
<ounds
5onuses(a
6ught(a
;b
4Complete
4End
5xpires
6tension
4Factor
5rame
6eezeTeam$s
5undingStart(a
4Gap
4Increase
<PerTx
6vestInMinute
4Left
8(a
8ToBid(b
:ContestStart
<ok
5imit
9Enable
6st(a
5ock
8(ba
;a
8!es(a
8Dura~s(b
8Period
8Send(bbaj
8ed(b
:BeneficiariesDisbursedTo
:Holders(b
:Start
8s(a
:b
4Mode
4Now
4Of(a
6Death
6LastBlock
:Distribu~
:Halving
:Increase
:OwnerWithdrawal
:Proof
;ublish
6Win
6fset
6reserva~s(b
5neSession
5ut
4Passed
:(a
6used
5erPeriod(a
4RangeCreateGen0
5emaining
4Scale
5lices(a
:Count
5tamp
9ForEpoch(a
9OfCrowdSaleEnd
DStart
7rted
6ep
4ThatFinishGuaranteedPeriod
5ier1
82
83
6llNextAttack
5oBeBurned
7orn
6Calm
7hallenge
6FinishPresale
<$sSale
6OpenPresents
6UnlockDDHHMM
5ransferbleUntil
4Vault
9(b
4Wait
5ithoutUpdate
4_bought
5end_sale
5locked_reclaim_addresses(ba
5of_token_swap_end
Cstart
6n_trademarket
4frameDeath
9Milestone
4game
4lock
8(b
:a
8Alloca~!(bi
8&!
=oller
8End@
8Of(b
8Release@
8$s
8Vault
8ed(b
:!es(b
:$s&s(b
@Disbursed
8s&s(b
4now
4out
7(b
7At
7Block
<s
7Resolve(da
4rMax
5Start
4s
5(a
7a
5Enabled(a
5IsOver(b
5et
5s(a
5tamp
9(d
9End
9List(a
9Mint
9Release
9_ack
:contract_start
:msg
9s(a
;d
6ep
3ings(a
2nyIPFShash(c
2p
3Creator
3User(d
9df
3_rate
4total
3oCongelamento
3s
4(bd
2thes
3le
5Count
5Ids
8(a
5s(a
6Sold(b
3s$Author
3tyApproveIndex(a
5&
=!
5IndexToOwner(a
5Votes(a
2xFounders
;Deposit
4und
7Deposit
3Genera~&
3NumberforSale
3Presale
:Deposit
5omo
8Deposit
1k
2c!
2d_amount(b
2n
3AddrNdx(b
3Offerors(a
3^Per$(b
3$sOffered(b
2t
3^
3otal
1mp
3Addr2contractAddr(b
3QuerySeed(aa
3ShuffleSeed(aa
1o
2(bj
262Encoding(<>a
=aa
2!(1
3llow
3mountBooks(bb
3scii(1
7String
2BE
3ase58(ae
8Checked(aA
3eDistributed
?Free
4Raised
3lock
3ool(1
3uyBack
3yte(1
7e
6s(1
732(1
2Cancel
3ollect(a
4ntractAddr
:Die(dda
2DRP(a
3ata(1
3ec
3ie(d
2EGR(a
3XTwei(a
3thers(a
7toteDevelopment|
3xchange(b
2Found
2GiveBase
2Horse(a
2Index(b
4t(1
2JackPotfromEveryTicket
2List(1
3otteryPool(a
3ucky
2Next
2Owner
2Pony(a
4ol
4werOfThreeHalves(a
:woThirds(a
2RICH(a
3LPItem(j
;f
3efer
5und
4served(ba
3tc(a
2SCL(a
3Pool(a
3TAR(a
3ale|
3ell(b
4ndLeft
3lice(c
7B32(d
3mallestShareUnit(a
7rtc(a
3pread
3tring(C
9b
2TeamEth&
3ileId(ee
4mestamp(kee
?e
@e
Ae
3okens(a
:a
4teLiquidator|
2Uint(1
7d
7j
3nixtime(d
2Vault
2Wei
5(a
3holeShareUnit(a
2ZT(a
2_end_ico
3start_ico
2buy(aba
2cancel(a
2day
5Reserved
5Sold
5sBidTotal
6Supply
2ekensForBTCandBonus
:Others
:Team
2ggle
6Active(f
7rtworkVisibility(a
7ttachedEnforcement(f
Cement(f
7uthoriza~(bd
6Burn
6CanCreateGames
7ontractActive
7rossForking
6DataViewWindow(a
7ead
7rain
8op
6EmployeeSuspension(bi
6FactoryPower
7ieldActiva~(c
7reeze
<$sFlag
7unding(f
6HALT(f
7alt(f
6InPlayJoining
6KYC(bf
6LastChance(f
7ockIn
:ed
6MatchStartEnd(aa
7igra~Status
8nting
6Pause
;d
7lotBlockedTag(af
7rebrdige
9sale(f
8omo(f
7ublicMatches
6ReceiveEth
8funds
6Sale
:(f
6$Exchange
;SaleOnHold
7rading
9nsfer
>(f
>For(b
>able(f
>s(f
6VaultStateToAcive
7ending(aa
6Whitelist(f
2kPrizes(a
3Takers(ab
3en
5(a
7cec
51
60MstepCAP
68KstepCAP
6st&
52
6GT
6Player(ba
53MstepCAP
54Gas
5Account!
7tive
6dd
8Fee
8r
9ess
<(a
=b
<2Id(b
<es
>(a
>Set
7min
7visor
<Partners
<sAllocated
<yBountyTeam
6irdropLeft
6llocToCompany
=rowdsale
<Team
:ate
=d
<ion
?s(b
9wance(bb
Ab
>Set(b
:ed(b
6mount
;(aa
<b
;Of
=(b
=Period(ab
;s(a
6ngel(b
6pprovals(a
?fa
;e(bba
<s
6ssignExchange(ba
Fa
;ed
;mentControl
6uc~(a
6vailable
8tar
5Back(gh
7lance
<(b
>a
>b
<Ledger_(b
<Of(b
@b
<s(b
?b
>e
=_(b
7nkrollAlloca~(b
=BuyIn
=Mapping(e
7se
9Rate
6earer
6ids(a
6lacklist(b
7ogs
6onusForFifth
?rst
>orth
=Second
=Third
:Pct(a
:@s(a
7ught(aa
;Per@(a
8ntyAllocated
6urn(a
9!
9ed
:r
;(a
;s(b
7yCost
8Rate
8er|
:s?
<rray(a
;Contributed(b
;Frac~(b
;Mapping(b
;Remaining(b
6yIndex(a
5Calculate(a
@a
8lback(baj
7p
8ForFirstMainStage
<ourthMainStage
;MainICO
;PreICO
;SecondMainStage
;ThirdMainStage
8PhaseOne
=Two
8Reached
8ped
6ents
6hanged(ba
;r
6laimWaitingPeriod
:s(ab
7ient
7ose
6ollector
7mmissionReceiver
7ntract
=!
Des(a
==
=Claim$s(b
=Defined
=Enable;s(f
=Start@(a
>upply
:ibu~Cap
AMin
:oller
8versionFactor
;ter
7st
9PerPack(b
7unt
:Set
6reate&
;Func~
;Utc@InSec
;d
<(bac
:ionCap
@One
Averall
@PreICO
@Update(a
@WithOutBonus
=Date
=Init
=Max
@Cap
@PreICO
BivateSale
>in
@Conversion
@Mile1
D2
@Payment
=PreSaleCap
=Rate
:or
7owd(b
:saleCap
>Rate
6tr
6urrentStage
5Data
9(a
9Value(aa
6ec
8imal
<s
=Left
7posit(ba
<ed(b
<s(bb
7scrip~
8troyed
>(bac
7tails
7v
6irectory(a
>Name(a
7scountPercentage(b
8tributeInDividend
>ion
A(ba
ADura~
AEnd@
APool
AStart@
>or
:usted(e
7vidend
=sOf(b
6rain
:(ba
7ian
7op(bgh
5ETH?
6mail
7ission
=(ba
=5(bababababa
6nabled(a
6quivalent(aa
6vent!
6xchange
=(a
=!
=Rate
ABase
AInWei
AMile1
E2
E3
APreSale
=d
=s
>(a
7ists(a
7pira~@(a
5Facebook
8tory
<(a
7llBack(baj
9back
=(b<uint48>j
?a
@d
@h
@j
?ba
Aj
=Buyer(bab
=Data
=Exchange(baa
=WhiteList(b
6ee
8(a
6orAdvisor
8Bounty
8Comunity
8SP
:Sold
9ale
8Team
<Granted
8Wei(a
7underLock@
6ree
9zing(bf
7om
8zen
;SinceBlock
@Notice
;UntilBlock
@Notice
@@
6ulfillmentDeposit(vaLex
Jzex
Izex
7nd
9Deposit
9ed
5GNO
6enerated
<ionCap
?Event
D(b
?Lock
?Max
@in
?State
6oal
6rant(ba
:ees(a
:s(a
<b
;Count(b
5HardCap
9cap
<Issued
<Reached
7sDistributed
8FreeTrial(b
6older
;(a
;!
;Count
;InfoSync(b
;PaymentSync(b
;s
<(a
=b
<ByIndex
<Claimed(b
=ount
<ToClaim(b
>tal(b
5ICO
6coAllocated
8UsdCent^
6d
7(b
72!(a
7Counter
7ForHandle(d
7Of(d
9UUID(c
7Pointer
7ToApproved(a
ARecipient(a
:uc~(a
9CelebId(a
:omposi~^(a
9Data(a
:na(a
9Erc20!(a
9Hash(a
:eroInstance(a
9Layers(aa
:isting(D
9Owner(a
>ArrayIndex(a
9^(a
9Rank(a
9Sale(a
:ellingItem(a
7s(a
9e
8Index(a
6mage(a
7balanceData(ba
7port(bb
;er
6nWhiteList(b
7cluded(b
8rease
7dexToApproved(a
<Data(a
<Explore(a
<Owner(a
<^(a
<Sector(a
7fo(a
9ParametersReady
9SetMaxPerBlockImbalanceList(h
?TotalImbalanceList(h
<Pending$s(g
7ited(b
9ialised
7stance
7ventory(bb
6sBanned(b
8eing;red(bba
7Locked
7Supported(b
7sue(a
:Deadline
:Index
:d
;AirDrop
;LockUp
;MainSaleIco
<kt
;PreFirstIco
>SecondIco
=ivateIco
;Today
=tal
:r
5Keys(a
6oef
5Ledger
7ft
6imit
:Per|
7st(a
:bb
9&
6ock
9(ba
9Dura~
9@
9ed
;!es(b
:r
;23
;s(b
9outPeriod
9s(b
7tsOf(ba
5Manager
<!
7rket(b
;Pool
7turityPeriod
7xSupply
6etadata(a
?c
=BaseURI
=Hash(a
6igrated
7nt(ba
9Cap
9Init
9edSupply
:r
9ingEnabled
6sg
6ult
9iplier
:sig|
5NAVMicroUSD
6ame
6eedForBonusLevel0
F1
6oBy!(b
5OWL
6bj
6f(b
9b
7Owner(b
<ByIndex(ba
7feringAddr
6nlyDeploymentCost
6pen
8ra~sFinished
;orApprovals(fbb
6wner
:(a
:Burner
:Number
@Max
:Of(a
:|
:s(a
;hip(b
5ParametersSet
8ti~(a
9ner
7use
7yments(b
6erEth
;er
8UsdDenominator
;Numerator
8Wai
9ei
6ool
9!
9s(a
7rter
7stIcoUsdCent^
6reSale
<Cap
<Rate
8saleCap
<Sold
7ice
:(a
;b
:Denom
;ivides(a
:ETH
:ForMainICO
=PreICO
:History(a
:InCent
@s
<Eth
=uroCents
<Wei
<cremental
E_
<itial
A_
:Min
;ultiplies(a
:Num
:Oracle
:PerUSD
;rovider
:USD
=WEI
;sd
:Wei
:s(a
8vate(b
<Max
7ocess(b
8of(a
6tx
6ublicSale
7rchase?(b
=d
5Quantities
7ota
5R0
66
6aised
;(b
7te
9(b
91
:0
:5
92
:0
93
:0
94
95
9InUsdCents
9Pre
9Usd
9Wei
8ios
;(a
6eceived
=(b
?a
<rs(i
7demp~(bc
7gistry
=!
7lease
<d
7mainCap
;PreSale
<ublicSale
7send
9rva~Allocated
;e
<(a
<d
=1
>Deposit
=2
>Deposit
=3
>Deposit
=4
>Deposit
8tric~(bf
7ward
;&
;Part
<reDGZ
;Rate
;s(b
5SC
6EEDcap
6PUsdCent^
6afe
7le
9Active
:ddr
=ess
;mins(b
:greement
:mount(b
9=Of(b
9Cap
:losed
?@
=ing@
:ompleted
;ntract
A!
;sts
9Enabled
;d
<@
9Halted
;sFinished
9IsFinished
;Paused
9Left
:imit
:owerLimit
9Max
:in
9OnHold
9PausedDura~
?@
9Rate
:esumed@
9$=
9UpperLimit
9WeiCap
<Goal
<Max
=in
9s
:All(a
:ByAsset(ba
<Owner(ba
6caleFactor
6econdPeriod^
7llCap
:ost
9Data
=(b
9ed
7ndFailures(a
ACount
9er
7tCrowdsaleManager(bb
8PresalePhase(be
8up(bbbbb
6hare(b
:Show(b
6martcontract
6oftcap
<Issued
7ld
9PreICO
<Sale
6pender
7in(a
7lit(bbba
7read
6tart^
8te
9us
7ore!
6upplies
=(a
:y
;BackedByGold
;Cap
<hanged
;FromCheck
;Limit
9ortLimit
<SoftLimit
6wap
9Lock
6ymbol
;(b
5Target
7xRate
6eam
9Allocated
9Supporter
7st
6hreshold(a
6icket^
7melock
6oBuyer(a
7CardIndex(a
8ontributor
:verter(b
7Eth(a
:Rate
:erAllowed
<Rate
7Founder
7InitialOwner(b
7Last^(a
7Owner(a
=fa
7PayoutMap(a
8ointsMap(a
7Relay(b
9serve
9ward(a
7Value(ba
7Wei(a
7sale
7tal
:Sold
;upply
6ransfer
=(ba
@g
?ba
=!
=ByAdmin(ba
=Delegate
=From(bbag
Dba
>unc~IdentifierMap(d
=Locker
=Notify(bba
=Ownership(b
=Proxy
B&
=s(b
>Enabled
>Frozen
:late
6witter
6ype(a
9AvailableQuantity(a
9^s(a
9Quantity(a
5URI
8(a
8Prefix
8Suffix
6SDRate
6nfreeze@
7it
9s
7lock(baba
7pause
7sold
6pgrader
6riPrefix
6ser(b
9Counter
9s(a
;ba
:Save(b
5Value
:(b
:Count
:InEther(a
:Multiplier
:Publish(aca
7ult
6endor
;1
;2
7sting!
6olumeInput(b
;Output(b
5|
;(b
;Change(b
;sWhitelist(b
6eiMax
9in
8Sold
8ToSale
6hitelist(b
6inner(a
7thdraw
=(a
>b
?a
=Ether(b
=al(a
=n(b
5XchangeRate
6stepCAP
5_
6a
7_amount
7ddress
7irdrop_amount_each
>cnt_max
7sk(ba
6b
7_amount
7alance(b
7id(ba
7uyins(b
6call
:g
7laim_waiting_period
7rea~_cap
6dates(b
7ecimals
8scrip~
6escape(b
6holders_array(a
6iso_price
8sued
6member_order(bba
7ultiplier
6name
6orderSheet(bi
6per_wei
7rice
6rate
9io
;1
;2
7eward
6sale_end_block
;start_block
7et
7wap_supply
6type(b
6unlock_time
6wallet_address
8s_created
5address
5beneficiary
5cap
5holder
5izeAndBuyWork(c
8d
5length
8th
6ist(a
5map(b
5reward
5s
6(<bytes10>
7a
7b
8b
7d
62owners(b
6Acquired(b
7ddress(a
7fterCrowdsale
7irdrop
7llocated
?(b
?ForAs(bbbbbbbbb
BCs(bbb
BFs(bb
BTeamAndReserve(b
?ToCrowdFund
Atal
=ionAllowed(b
8readyMinted
7mount
<(a
<From(a
7pproved
>Map(a
7reFrozen
9Liquid
8ray(a
7uc~ed
7vailable
?AtCurrentTier
ATierInternal(eaa
?ForSale
6Back
8nk
:Partners
7locked
7ought
<(b
<InBonusProgram
>Earlybird
<WithBTC(ba
9nty
7urned
<Total
:t
7yBtcTx(c
8DashTx(c
8EurTx(c
8LtcTx(c
8Owner(b
8Tx(ec
8UsdTx(c
8WavesTx(c
8ZecTx(c
6Cap
9(a
7laimableAfter
;ed
=Airdrop
7ommunity
8ntract
>=
8unt
;(a
;er
7reated
=(aa
;ionCap
>Min
>VIPsCap
8owdsale
6Daily
8taProviders
7evelopers
7ispensed
9tributed
ACrowdsale
APresale
AToContributors
7onated
7ue(a
8ringPhaseOne
6Eth(b
6Finalized
7or1EthP1
>2
>3
>4
>5
>6
9!(b
;visors
@y
:rtist
9Bonus
;unty
:urn
9Charity
:reators
;owdSale
9Development
<team
9Ecosystem
9Fight
;nalize
:ounder
@sAndTeam
9Ico
:nvestors
9Marketing
9OneEth
?er
:wner
9Parnter
<tners
:eriod(a
:latform
:reICO
<sale1
@2
:urchase(ba
9Reserve
@dFund
9Sale
=Count(f
:iteReg
9Team
:ournament
:rivial
9Wei(a
9fortis
9plutonics
9torch
7romEther
:Presale
=vious$sale
9zen
6Generated
7ranted
6HardCap
7oldMap(b
:er
6ICO
7co(b
9InOtherCrypto(b
7nAuc~sOfOwner(b
8Eth
8Play
8Use
8Vault
8WeiSold
8dexOf(bf
8foOfOwner(b
8vested
7ssued
<(b
<Air
<BySTO
<Crowd
<ForBonusRangeFour
IOne
IThree
Jwo
<Ico
<Locked
<Mkt
<Owner
<Private
<TillNow
=otal
6Left
:ForSale
:InPhase(0
7imit
7ocked
<(ba
6Main
8sterNodes
7inted
<DuringICO
BPreICO
<ForOpera~s
?Sale
6NeededToGetPayment
7oBonusSold(b
6Of(b
8Captain(i
8Founder(b
8Image(d
8Owner(b
>d
=ByIndex(ba
=FromIndex(baa
=Map(ba
=WithinRange(baa
8Sell
8TeamAndAdvisors
8fered(b
=Of
?(b
8kitty(i
7nHold
8Sale
8ThisChain
7therCrypto(b
7wed(b
:ByInterval(aaa
8ned(b
:r
6Paid(b
7ending
8r!(b
:lloca~
9BTC
:atch
9CHF
:ents
>DayOne
>WeekOne
>_gte50kUsd
CkUsd
9Dollar
9ETH
:th
<AtRegular^
<Presale
>ice
=ublicSale
<er
>_denominator
?numerator
9KEther
9MicroEther
9OneETH
=ther
9Phase
9Second
9Tier
:ranche
;unche
9USD
9Wei
<(a
<10
=5
<20
<5
<7
<Bonus111
A250
A333
<PlusBonus(a
9centageForKeyHolder
7reICO
:co(b
<InOtherCrypto(b
9Sale
8omo~
7urchased
?(b
?Total
6Raised
<DuringRound(e
<Round
8te
:(a
7eceived
>(b
@ba
Abajj
8deemed
8leased
>(bb
>AdvisorsTeam
?mount
>PerPeriod
>ToEarlyInvestor
Acosystem
@Ico
@Team
8mainder
<ing
?ForSale
F(b
?Ico
?PreCrowd
BIco
?Stage1
D2
D3
8quiredForAllWins
8served
6Sell
:ing
8nt
:(a
;b
:Dev
:Main
:Presale
7oftCap
:cap
8ld
:?
;tIco
:Count
:Goal
:Ico
;nPeriod(a
=resale
<ThisRound
:Limit
:OnPublicRound
:PerPhase(a
;re
:To(b
<Investors
<tal
:Whitelist
;ithBonus
7pent
7tillInLockup
7upplied
>FromReferral
;y
6Team
:Blocked@stamp
7oBeAllocated
:Claimed
:Returned(b
8Company
8Eth(a
;er(aa
=eum_(a
Ca
A1(aa
A2(a
A3(aa
8Funder
8Generate(a
8Issue
8Lock
8Mint
<InHold
8Partner
8Sale
9ell
:nd(bbbajj
9old
8Wei(a
8tal
;Supply
7radeable
9nsferred
A(b
AToHold
6UnlockPeriod
8sold
8vested
6Values(b
7ested
7otedForDisable
6|
7eiRaised
7ith?
:drawal(ba
>n
:outFee(b
6_arr(a
7backed(b
8uy
7map(b
7sold
7total
6ale
9(b
9Buy$s
9Contributors(a
9End@
9SecondsToStart
:tageAt(a
>Now
<rt@
9ToOtherCoinUser(ba
;kensPerEtherNow
9|
6et(a
6investor(b
6left
6up(a
5t=(b
3pereth
2ldYouItWouldWork
3erantSub(aa
2m
3bToOwner(a
3oConvertRate
4Deposit
;!
2nextround
2ogleMinting
6;s
3k(a
2p
3=(ba
3DogInfo
3Fab
3LevelDomainOwner(c
3Map(b
4essagesMap(a
3TotalSupply
3Up
5(ba
7iV
6c
5?
5=
<(a
5Delegate(bbiV
5ERC20(biV
5WithEtherAnd$sForHolders(ba
3Wizard
3downAndCashout(ba
3up
5Energy(a
;By$(baa
2rch&=
5DividendsOf(b
5Runner
;s(a
2s
3(a
3$
3ell(bababaa
3sIntoTheFire
2tAlloca~
3BOTs
3Contribu~
3IndexToApproved(a
:Owner(a
3Supply
3Users
3aTeamRemaining
4l
5(a
6b
5Accessories
@(a
=ySeries
8ounted
<s
7orns
6dminsMapping
7optedAxies(ef
7visor
<sSupply
6ffiliate$sSent
6irDrop
<$
<ped
8drop
6llStage
8oc
:ated
>Purchase
>ToAdvisors
@Team
@kens
<ion
:ted$
9wedFreeze
6mount
;(b
;OfCrowdsalePurchases
OWithoutBonus
=EarlyPurchases
KInCny
KWithBonus
OoutBonus
=Orders
=PresalePurchasesWithoutBonus
>urchasesInCny
=TeatokensCreated
>okens
=WeiCollected
<nICO
;Raised
=ked
;Wagered
;sBet(a
?Stage1(a
D2(a
6ngelCardSeries
:s
6pproved?
6sset$s
:Units
:s
6tWithdrawal(b
7om
6uc~
<s
=Count
9orCount
6vailableForSale
8liableSupply
6ward
:s
6xiesAdopted(e
:Rewarded
5BGX
6NBContributed
6adges
7lance
<Claimed
<Down
<Of(b
<Up
<s
;ing$s
7seLareSoldInMainSale
CPreSale
8icIncome
@(b
7tchOf(d
8tle
;boards
;s
6elaStaked
7t
8?
8Count
=(<Gamble>
BeInfo>
8Value(<Gamble>
BeInfo>
8s
9Made
6id
8Count
8Eth
8s
6lockContribu~(a
:s
;Mined
6ondSupply
?_BEAR
AULL
8us
:Given
:$
?s
@Issued
:es
7oty
7rrowingItem
7ught
;Color
8nty?
;Supply
;$s
;inWei
6ribery
6sp?
6unniesCreated
9y
7riedCapsules
;Value
8n
9ed
;OfType(a
;$s
9t
7yCardNumber
8Map(b
8Orders
>Of(b
8^(aa
8$s
8erETHMap(b
:Supply
:s
;Mapping
8s
5CLNcustodian
6ampaigns
7ndyNo
7p
8InWei
8italiza~
8sules
7rdCount
7scadingPercentage
8hout
8tle
6ents
:Collected
:Gathered
6harity
7eque
;Value
7icken
8ld&s(a
:$s(ab
Aba
6irculating
7ties
9zens
6laimable$s
:ed
<(b
:s
8ss
7osedBID
6oinCap
9Lock
9Supply
7llectable$
<ed
>Wei
7mmissionOwed
:tted
9onWithdrawSupply
9unityFundMinted
8panies
7nsideredFundedEther
9ume
8tractHolders
=sAvailable
:ib
<(b
<uted
@?
@ETH
@Units
>ion
AInWei
As
BBySender(b
>ors
AContribu~
AProfit
:olled=
7okieProduc~
7st(b
7unt
8ponsUSD
6reatedOfType(a
:ionCap
8dits
7owdCoin
:Sale
:sale
6urrentFunders
7stomBuyersMapping
5DETsSold
6ai(b
6ebt
9(b
7ductedValue
7lega~s
7ployments
8osit
<=
<$All
<ed
>(b
>Ethers
<s
7stina~=
7vCoin
8elopmentFund=
DEarned
6inoSold
7scount(aac
>eac
8tanceRun
9ributed
@Airdrop
@Dividends
@i
AnWei
@r
>ion?InWei
As
;ctSupply
7v
8idend
=PayOuts
@ments
=Shares
=Winners
=s
>PerCoin
6onated
:ions
>WithBonuses
8ors
7wSold
6ragonLotteryNumber
;s
8w
7op
9?
9PerUnlocked$
9Transac~s
6ura~InDays
5EDUSAllocated
9Left
6RC20&s(a
6TH
8Raised
8Sold
8raised
7M
6arlyInvSupply
:PurchaseRaised
:Stage
8n
9ing
6gg
6ligibleVotes
6njSold
7trants
9ies
6ras
6scrows
6th
8(b
8?
8BankrollCollected
@Recieved
8CharityCollected
?Recieved
9ollected
:ntributed
8Deposited
8Handled
8InWei
=ForFirstIco
@PreIco
@SecondIco
8JackpotCollected
?Recieved
8Pos
8Raised
9cvd
9eceived
@InWei
@inWei
;ieved
:funded
:leased
8Sales
8er
:BetValue
:Cap
;ollected
<ntributed
<okieResearchPool
:GooResearchPool
:Paid
:Raised
;eceived
:eum=
=ICOReceived
=Raised
:s
8xCollected
9Recieved
6uroUlps
6xcessEth
8hange
=d(ee
7ternalSales
8raOp~s
:$s
5FailedOldOwner;?s
9s
7rtsReceived
6ci
6eatures
7e
8Collected
8Flows
8s
9Value
6iatValue
7nalStage
:ised
7rstICOSupply
7sh
6orMining
8Outcome(e
8tunes
7undCoin
6ree$sDistributed
9ze$s
;d
7ozen
;AccountsMapping
6und
9Raised
9ed
;Ether
9ing
<?
<GoalInIBC
<Supply
9s
:Distributed
:Received
:SoFar
:Withdrawn
5Gains
7mbles
8es
:Played
7sUtilizing
6en0
8esis!es
<Recipients
<$s
6ivenBounty$s
6oldSupply
7oProduc~
BSnapshots(a
6uaranteedCollected
7ess
5HardCap
9cap
7shRate
6edgelyInvested
<Winnings
7ldSupply
6older
7useWinnings
5ICO
8?
8Supply
6RCAllocated
6co
6n(b
7Cents
8ircula~
7Vaults
7Wei
7active
7come
7fected
8o
7itial!es
<=
<Supply
7put
7suranceFlows
7terestCycles
=s
7vSupply
8est
;ed
=(a
>b
=?Of(b
=InWei
=Per!(b
=Wei
>ithBonuses
;ment
?(b
?Of(b
?s
;ors
6ssuanceCurrent=Sum
=Data
>ebt
A_limitedSum
=LastAverage=
AModified
9e$Generated
:d
;EarlySale
:rCollateralisa~
;Supply
9ingCollateral
F_limitedSum
6tem
9s
5JadeProduc~
CSnapshots(a
5Kitties
<Burned
5LBSold_CORNERSTONE
<GENERAL_1
D2
D3
<PRIVATE
6areSold
6eaderboards
7nder=
9ing?
<Fiat?
7vBlocks
8el(h
8s
6icensePurchases
7mit
:USD
=WEI
6oadedRefund
8n?
7ckAllocated
:mount
9Principal
9$Alloca~
9ed
;?
;Bonus
;Havvens
B_byAvailableHavvens_limitedSum
ClimitedSum
;RewardsOf(b
;Supply
;$s
7se
8s?
9Value
9es
8t(b
9s
7tteryNumber
<Value
7veBlocks
6ux
8Cents
5MEATonsClaimed
<Supply
6IT
6TPAllocated
6ainSale$Issued
BLimit
7rketingFundMinted
;places
9s
7xBuy
;in
8Supply
6ember
;s
7ssages
6fr
6igrated
=In
=Out
7neSupply
9d
:Supply
8t?
9&s
9Limit
9Nums
9Supply
9ed
;Bounty$s
;$
6oderators
7nster
5NTD
6acInPool
6etworkCollateralisa~
6ights
7hilum
6oOf$Alocated
7des
7nSaleSupply
7rmalCollected
=ntributorIds
IAllocated
;EtherCollected
;$Generated
7tCompleted
6tsSold
<WithBonus
6um
8berOfCards
=Funders
=Purchases
=Scammers
=$sForSale
;$Sold
5OVCSold
6bol
6f$(b
7fer
6nDeposit
6rder
6ut(b
6verthrows
6wedForApi(a
7ned
9rs
5Paid
9?
9Dividends
9Out(b
8ntingsCount
7rticipants
>~?
9nerSupply
<WithdrawSupply
7usedSeconds
7yed
:Out
8ments
=Held
8out
;s
6endingPayments
<Withdrawals
7r$Payout
8iod
;s
7tCardSeries
8s
6hase1Dona~s
:2Dona~s
:s
6icoUSD
7lfered
6lay
9Count
9er
;Count
;Supply
;$&s
;Winnings
;s
7edgedFees
@At(a
6ointsPer$
7nziInGame
7ol
9Cap
9Op~s
7pula~
7stIcoContributorIds
JAllocated
7t
8AwayTeam
8HomeTeam
6rayers
7eBuyers
8ICO?
;Supply
;availible
DWithBonus
8Sale
<Stage
<$Issued
8sale
<Base
=onus
<$sSold
BYetToAllocate
<Wei
9ses
7ice
8vateAlloca~
<SaleStage
8ze
:Pool
:s
7oceeds
8fit
;(b
8ject$
8mo
:~s
8por~
6ublicFundingSupply
;SaleStage
?Wei
7rchase
=ValueInWei
=d
=s
5Quantity
5RaiseWei
:d
;?InCny
;Ico
<nCents
=Wei
7ke
7te
6ecalled
8eive
<d
=Eth
=Wei
7deemed
=Cheque
=Value
9mp~IdValue(bl
7funded
=?
7gistra~Bonus?
8ular$sSold
7imbursedWei
7lease
<d
=(b
7mainInInventory
;Supply
;ing
>$s
DForSales
7paidQuantity
7quests?
7scues
8erve
<dAndBonus$Alloca~
=$Allocated
Iion
8trictedAssignments
?$s
7turned(b
=Credit
;s
7venue
7ward
;IssuedOut(b
;ThisYear
<oken
;ed
=Axies(f
;s
<(a
<Distributed
<Redeemed
6ice
7se
9d
6ollsByUser
@(b
7oms(c
7undSeed?
:sPassed
7yalty
5STACoin
6UM
6alaryBunny(i
8e
9?
9Cap
<Units
9Limit
9Supply
?Cap
9d
:$
9s
6caleStaked
8mmed(b
<Quantity
<Repaid(b
6econdICOSupply
7edStage
7llCardNumber
9Orders
?Of(b
9^(aa
9ingItem
7ncCollected
8t
7raphims
7tCredit
6hare
:Pool
:holders
:s
;(b
6ignatures
6old
9(a
9Count
9OnICO
;Presale
9Slogns
9$
>Count
>s
?WithBonus
CoutBonus
6pending
9t
:Eth(b
:PerDay(a
7inners
9s
6quareStakes(aa
AByUser(baa
6tages
8ke
:d
;For(b
:s
8rSupplyRemaining(e
8shedPayouts
8ticoinSupplys
7ores
6ubscrip~
7perAdminsMapping
8lay
8plied
=AfterLock
:y
;(<DRCTLibrary.$Storage storage>
<a
<b
=d
<d
;1
;2
;At(a
=Checkpoint
=Internal(a
;Bonus
<yLegacy
;Cap
<rowdsale
;Expansion$s
;ForCrowdsaleAndMint
>Division
>Presale
<romCrowdsale
?Inventory
;History(a
;ICO
<co
<nWei
<sLocked
;Limit
<ocked
A1Y
A2Y
;Market
=x
<int;
;Of(a
=Type(a
<nIco
;PreSale
>tty
=ivateSale
;Sale1
?2
;Team$s
<mp
<oken
;Units
=locked
<pgraded
;WithDecimals
?OutBonus
?Zero!
;Year
;_
;s(g
6yndicateShares
6zaboInBids
5T8EXSold_CORNERSTONE
>GENERAL
>PRIVATE
6RsWagered
9on
6axed
6eamContributorIds
GAllocated
9FundMinted
9Supply
9WithdrawSupply
9s
6ickets
<Sold
7ers
7meRange
9lockedBeneficiaries
6oDistribute
7Sale
7ken
:=
As(b
;etValue
:Cap
=ToCreate
;ollected
<unt
;rea~Cap
:ForPool(e
:Holders
:Issued
:LossValue
:MintedAngel
@Open
@PreSale
:RaiseWei
;ewards
;ice
:Sale
>Cap
>d
>s
;ell?
;old
;upply
:ToSale
:Vested
:WinValue
:s
;Allocated
<vailableForSale
;Bought
<urnt
<yStage(a
;Cap
<ompany
<rowdSale
;Destroyed
<istributed
;Emitted
;ForSale
BDuringICO1
K2
K3
K4
HPreICO
?old
;Generated
;ICO1
>2
>3
>4
<ssued
;Locked
A(b
;Minted
;PreICO
>sale
<urchased
;Received
=leased(b
=mind
=serve
;Sale
<ent
<old
?InThisSale
;ToSend
>upply
;Withdrawn
?outBonuses(b
6rading
8iner
8nsac~Count(b
@s
:ferWhitelistMapping
=red
=sInSchedule
;ormed$s
7eePower
6ulipCount
6xFeePercent
7Volume
5UBetCheck?s
6ETsSold
6SD
8Raised
6nClaimed
7claimedBids?
>$s
7distributedDividends
7iquePlayers
8tsLeft
7released$s
9strictedAssignments
A$s
7vestedAndUnreleased$s
6pgraded
6sd?
8Funding
8Raised
9eceived
8ValueOfAll$s
7ed
9$s
8rLost
9Number
9Profit
9Stakes(b
9;ed
9s
5VCCoin
6IP
6UP
6alue
:(b
6ested
;Account=(b
<mount
;=
;$s
9ing
6ineCapacity(b
6oted
9rs
9s
:(b
5WEIInvested
6agered
<For!(b
?Outcome(e
7llets
7nnaBuy?
6ei
8?Sale1
B2
B3
8Cap
9laimed
9ollected
:mmitted
:ntributed
8Donated
8Expected
8Funded
8Lose
8^
8Raised
>DuringICO1
G2
G3
G4
DPhase1
I2
I3
EreICO
9eceived
;ieved
:funded
8Sale
8ToBeDistributed
8Volume
8Wagered
9on
8ght
6hiteListed
:listed
@Funding
6in
8?
8Value
8e;redFromVineyard(b
8ners
9ings
8s
7tdrowed$
8hdraw$All
=als
=n
>(b
;ew
6on
8(b
5YUPIESAllocated
5ZTHWagered
7KCheck?s
5_ICO_supply
6SDCC_supply
6amount
<(caa
6bet_available
:purchased
:withdrawn
7urned_by_raffle
8y
6claim_codes
7oins
6devidend
7istribu~
6fees(a
7reeze_term
7und
6investors
7ou_available
:purchased
:withdrawn
6minted
7oney_back
6pay_claimed
7oints
6racers
8ised
7eceived_amount
8funded
8ward
<_amount
6snt_claimed
7upply
6token_sold
;s
;wei
6user_eth
>_cap
:s
6wei_given
7ithdraw
5accumulated
6vl
5deposited
6ividends
9ne$sIssued
5eFrasi
6Msg
6arners
6therstransacted
5fv
5issue
5ly_decrease_the_supply(a
5moneyearned
5paidout
6layers
5releaseblances
6iskcoinsSupplys
5s
6(a
7b
7d
6Data
6igs
6takeamount
6um
7pply
5tokensold
6ransac~s
3eLiquidatorTranserComplete
CferComplete
>|
3le
5Primary
3um
5Alloca~
5Phases
2uch
5ed(b
3rnament
:BankCut
:&
:DataIPFSHash
:EndBlock
:Finished(h
:IncentiveCut
:Jackpot
:OwnersCut
:Paused
:Queue(a
?Size
:Result(<uint32[3][11][32]>
<wards
:Start@
:s
;(a
;Addr
;Reserve
2wn^
4crierCallback(lld
4sSold
2yIdToApproved(a
7Owner(a
1pe
2t
1rCut
2Fee
2acetoMultiSig&
4k(b
5BuyersPurchases(b
5Click(bb
5$(b
5able(bb
9_dislikes(b
:likes(b
:record(ba
5ed$s(a
6r(ba
5ingNo
3dable
4e
5(<address[11]><uint256[11]><uint8[2]>xx
?4]>2eddaf
?5]><uint256[11]><uint8[3]><bytes32[6]>
7uint8[2]><bytes32[4]>L<address[6]>
Lz<address[6]>
6F2ja
6a
7Jdde
7ac
7baba
6bab
9aaabedda
Af
9baa
<b
<f
;f
:f
7b
8a
9aaba
8bfaa
8gaa
6caa
6fjaa
6gaa
6haeddj
6ll
6z<address[4]><uint8[2]><bytes32[4]>
5ABIHash
6ctive
;(b
6ddress
6irswap(babaaedd
5=s(bababa
7ncor(gaab
6ookOf(b
9s(b
5Cards(ba
6omplete(bababbaa
7ntract
5DAI(aa
6ealConfirmed
9Requested
5ETH(a
6nabled
6therDelta(babaaabeddaa
Kf
6ventEnabled
:Handler(bababbda
6xecuted(ba
5Fee
5In(ba
7tentOf
=(b
5Kyber(baab
5Modifiers(bb
5Op~(FJyfaf
@faf
5Pre$(abbab
5Report
6obot
7utes(babag
5SpreadInvert
6tart@
:time(a
8tes(d
5$
6racker
5WithHint(babbaabj
?babbaabj
5able
5d(d
6_token
<_balance
=is_seeded
=seed_amount
5num(b
5r
6s
7(b
8e
5s
6(bb
7d
6Count
6Ids(a
6Stats(d
4ing
7=Of(bb
7Enabled
7Fee
:Modifiers(bb
:Percentage
7History(b
7Live
8ocked
7Open
7PairCutoffs(br
8roxies(a
7Started
7_deactivated
3in(afe
51(a
8a
52(a
8a
53(a
8a
5Equipment(aaa
5Fee
5Kitty(a
5Special(aay
@y
5_data(aa
5ees(b
6rDex(ba
7Extra=(b
5ingFeeMultiplier
8_parti~(a
4tIdxToName(a
5s(a
3k$
3nche
7?Pct
7Count
7Denominator
7MinTx
7Numerator
7PeriodInDays
7Size
7s
8(a
8Count
8PayedOut
8Sent
4ferFrom(bba
7MinterOwnership(bb
7Ownership(b
7Presale$s(ba
7ToReserve
4sData(baj
5Ether
5Fee
8Cut
5Supply
5To(bba
5ac~(ba
;!es(i
<mounts(i
;Count
@er
;Fee
>Max
?in
>Rate
BM
;List
<og(a
;RawToBytes(abaff
<eplay(ba
;Switch(f
;_count
;fee
>?
;s
<(a
=d
<Active
<Claimed(a
=ount
<On
>ForHolder(b
GUpdate(ba
>NowVal(b
<StatusUpdate(f
5codeReceiptHash(caddj
9r(aaa
:Status(b
:TotalStake(b
5fekbolOwnership(b
;Plutocrat(b
7r
8(<>a
:DRCTLibrary.$Storage storage>ba
:ERC20Lib.$Storage storage>ba
:$Lib.$Storage storage>ba
9Eba
9a
:<DaoAccount>
:b
;a
;c
:cj
:ghJjjj
9b
:<bytes32[8]>
;uint48>
Bj
Cc
:K
:N
:a
;a
;c
;d
;j
<c
<j
:b
;a
<a
=ff
<j
;b
<a
;ga
=a
<h
:c
:d
:ga
;h
:i
:l
:m
9cb
;a
9da
;b
:b
9gbh
:h
9h
9lal
:lal
9nqi
9ppw
9rb
810(baaaaaaaaaa
82(aghjjjj
:ba
8A2B(bb
9UTOtoken1(g
As10(g
B5(g
9bnormalERC20$s(bba
9cceptable(b
<ssory(bbl
:tive
9ddresses(a
:min(b
?a
?b
=Message(bb
=Ownership(b
=Quickly(b
=Ship(b
=s(b
>hip(b
A1(b
A2(b
:viser(gh
=or$(ba
Ds(ba
?s$(ba
?yReserve$s(ba
9fterDeadline
9gent(b
=s
>(b
:reement(db
9idrop
:rdrop$s(gh
9ll
;(bb
=h
;AndCall(bj
;Dividends
;From(bbh
Ah
?Forcibly(bb
;$s
AToOwner
H(b
;Unsold$s(b
;owance(ba
Cba
=ed
?(b
Aa
Ab
?Add(b
?Dates(b
@elete(b
?Of(b
9mount
9ndApply(ba
;Buy(baaa
;Call(ba
Bd
Bh
Bj
Cc
?Delegated(bbajaaaj
?ERC(bbaj
?FST(baj
?Whitelist(b
?back(baj
;DonateTo(bab
;Freeze(ba
Da
Ea
Faa
Cbaaa
AMulti(ghhh
A$s(ba
@ing(baaae
=ost$s(baa
>zen(ba
;Lock(ba
Ba
Ca
Da
Aba
?Forever(ba
?Multi(ghh
?Until(baa
;Notify(baa
;Pay(baj
;WriteUrl(bac
:gel(bbl
:tique(bd
:y(ga
;Caerus$(ba
;ERC20$(Eba
Fba
Hb
Gba
Gm
;$s(ba
Cba
9pproved=(b
9rray(gh
==ForPreSale(gh
9sChild(babaaj
:setOwner(b
=sToNewApplica~(b
9uc~(bba
:dit$s(ba
=or(b
?Record(bb
:thPermission(b
<ority(b
?za~s
8BZxOwnership(b
9ack(a
>b
=ba
<MANA(ba
@Many(gh
<To(ab
:g(ba
:lance(b
Aa
?ForPreSale(ba
?ToOwner(a
;lance
:nkOwnership(b
:se(a
=db
<Ownership
:tch(g
?a
?h
=Idempotent(ghf
9ct$(ba
9eer(ba
:neficiary(b
:tweenUsers
9lackFunds(b
=list(b
:ockValueToBattleValue(ka
=ed
9ond(q
;us(ba
=$(ba
=es(b
:unty(ba
>Reserve$s(ba
>$s(ba
Egh
9roker(baa
9ulk(gh
:rnRole(b
:yer(ba
9y!(bab
<min(bba
:Crowdsale(ba
:Eth(baa
:Legacy(bba
:Owner(ba
Ba
Aba
?&(ba
:Related$(bba
8CEO(b
9MO(b
9TO(b
9allGas
<ership(ba
:naryOwnership(b
:rd(baa
<Ownership(be
<To(bb
9ell(ba
:ntralBanking(b
9hairperson(b
;rity(b
:ickenFrom(bba
;ld(abba
>bb
@a
=Opera~s(a
=ToParent(ababaj
=ren(b
;ps(bba
9learingFunc~(b
:ockmaker(b
;se
9oOwnership(b
:adminship(b
:in(ba
<s(b
?a
:llateral(a
<ectedEther(b
?orship(b
:mmissionGetter(b
BReceiver(b
;pany$s(ba
<ensa~Ethers
<lete(baj
:ngress(b
;tentOwnership(dbc
<ract(b
Bbb
@Ownership(b
=ol(b
:oldown
:st(qa
:unt
9reatureOwnership(b
;ditBot!
>sInternally(caec
:owdSale(f
=sale(ba
9ura~Rights(b
=orship(b
:stom$(bba
8DSPRecord(bb
9aico(b
:o(b
:ri(bba
:ta(baj
<Authority(b
<EntryClerk(b
<From(bbaj
<Ownership(b
:y(kb
9ebt(bbba
:cimal?From(bba
:legated(bba
Eaaaj
?ion(b
:posit(a
?sToNewDao(b
:v$s(b
9irector(b
@A(b
@B(b
@y$(aba
:sable(r
?d
;tribu~(ba
Aorship(b
:videndToShares
@s
A(b
9oc(abb
:ftManagment(b
:main(ucb
>Ownership(db
:na~s(db
9ryRun(bbaa
8ERC(bba
;20(abba
>ba
@b
?ba
=$(b
Da
Dba
Bs(bba
<23(abbaj
;X$Initia~(cbba
9TC(b
:H
;(b
=a
;S(g
9arningsToOwner
9mpire(b
9nable
>(r
>d
=ingDate
:tireStake(b
<tyOwnerPull(b
Esh(bb
9scrowship(b
9th
;(a
<ba
;AgreementList(a
;From&(ba
;HandleOwnership(db
;To(ba
=Multisig
=Onwer
>wner(a
;er
=(a
>ba
=Initia~(ba
=Out(ba
=To(b
=eum(ab
=s
>(ba
>ToDao(a
AividendManager(a
@Owner(a
9x(ba
:cep~(b
;hange(a
:ecutor(b
:t(ba
;Ownership(b
;ernal$(bba
8FAIDS(gh
9ST(ba
9actoryResource?(kba
9ee
;(a
<ba
=ba
>ba
;!
;Denominator
>um
;Incurred(a
;Num
>erator
;Owner
;PaymentFinished
<ercentage
;Rate
?(b
;_
;s
9inal
<ncial(b
9lower(ba
9or(ba
;Admin(bba
;ICO(ba
;Multi!es(gh
;Team(ba
:under$s(ba
?s(ba
9ree(ba
<ze
>(ba
>rship(b
:om(<>ba
>DRCTLibrary.$Storage storage>bba
>ERC20Lib.$Storage storage>bba
>$Lib.$Storage storage>bba
=Ebba
=abba
=ba
?a
>b
?N
?a
@a
@c
@d
@f
@j
Ac
?ba
Aaff
Aj
?c
?d
?ga
?i
?m
>gh
=dda
<Admin(bba
=ndCall(bbaj
?Lock(bbaaa
>y(bba
<BRXPay(bba
=ank(ba
@ToAccount(da
>se
>tch(gh
=yCrowdsale(bba
>Legacy(bbba
<CallGas
=ontract(ba
Ga
=roupier(ba
?wdfund(ba
Asale(ba
EToUserAdop~Pool
<ERC(bbba
<FST(bba
=lower(bba
=orcibly(bba
=und(ba
<Gate
<ICO(ba
=co(ba
=ndexed(bba
<Multi(ggh
<Origin(ba
=wn(ba
?er(ba
Cba
Ea
<Parent(babaj
=ie(a
=reSigned(jbbaaa
EHashing(bbbaaa
?sale(ba
>ivileged(bba
=ublicAlloca~(ba
<Register(ba
=obot(bba
>ot(bba
=wrd
<Sender(ba
BPaysFee(bba
=ystem(bba
<To(bba
Bj
>ICAP(bca
Dda
BCallGas
BWithReference(bcac
Qdac
OCallGas
>ken(bbba
ASell(bba
=reasury(ba
>usted&(ba
<Vault(bba
=est(a
=iaProxy(bbba
?Signature(bbbaaaaje
Nbaaje
<WhiteList(b
=ithComment(bbac
AustomReserving(bbaa
ONet(bbaa
@Data(bbad
Hj
@Fee(bbaa
@Narrative(bbac
@Reference(bbac
Mdc
ICallGas
Bserving(bba
INet(bba
@outReward(bba
;zen
9und
<(ba
<AndEndGame
<ToAccount
E(b
<s
=(ba
=AdminOnly(ba
8GDPOracle(b
9IM(bba
9ainedEther
:meOwnership(b
9enesis(b
9ift(bb
:veaway(b
9oldFromHot|(bac
:o(ba
9rants(b
9u(ba
8HashOwnership(ab
8ICO(ba
;$s(ba
9DC&Ownership(b
9XT(bbc
9co$s(ba
;ship(b
9fHF(b
;ardForked(b
:NoHF(b
:Puritanical(b
9nGame(bba
:dexed(ba
?By!(bab
:itialAlloca~(ba
IWith@dLock(baa
?$s
:s(ba
:terest(bba
:vestorAccount(bb
9sAllowed(b
:Enabled
:Possible
:sue(ba
=r(ab
9tem(aba
<From(abaa
8Jackpot(b
9okerOwnership(b
8King(b
9nightOwnership(b
9ycOwnerShip(b
8LOT
9and(mmb
9eftover
9ike(ba
:mitedFundToAccount(ba
=s(b
9ock
<(baf
<Until(b
<ed
>(baah
Ae
@hh
>=(b
>From(bbaah
Ehh
>Multiply(ghhh
>Part(ba
>$(a
Dbaa
<ing(bal
<up
:g(bac
;icAuthority(b
:ngTerm$s(b
:veStory(qdda
AWithData(qddac
8Maintainer(b
:nagement(b
>r
?(b
?&
?Factory
?s(b
=ment(b
A1(b
A2(b
;ual(ba
Ac
>ly(ab
;y(gh
<Land(BBb
:rketIncentivesFund(ba
>alloca~$s(ba
9embership(b
9ined(ba
<r(ba
;imumFee
B(b
;tMaster(b
<Ownership(b
<$s(ba
<ership(b
<ship(b
9oderatorship(b
:neyForTaskSolu~s(ca
;ster(bbl
:reETH(ba
9ulti(bbbbbbbbbba
>ga
?h
=!(gh
DFrom(bgh
=SameValue(ga
Cule(ga
=ple(ag
Abh
Ch
Agh
Ca
@Delegated(bghaaaj
AifferentValues(hg
@Same(ga
?y(gh
9y$s
8Name(bc
:shOut(ba
9ewCoin(ba
9onFungible$(bba
HFrom(bbba
HMulti(bbh
:tifica~(baa
8OfPower(b
9nBehalf(baaedd
:Error(ba
:|
9pen
;ra~s(b
BFunc~(b
>or(b
9r(b
:igin(ba
9ther(bba
=ERC20$(ba
=From(bbba
=$s(b
9ut(b
=a
;AllEthers
;=
9ver=Funds(bba
9wnCoins(ba
;er(b
?a
?ba
=Money(b
=Ship(b
AToPendingOwner
=ship
A(Eb
Bb
C<bytes32[3]><bytes32[3]><uint8[3]>
Cb
Cf
Df
Bcb
Bg
Bpooag
A1(b
A2(b
AAnd$(b
ABack
AForVanityURL(b
AImmediately(Eb
Mb
AManualMinter(b
Bessage(b
AOpera~
AReceive
ASend(b
Crver(b
ATo(b
Cken(b
AWith=(b
EHowMany(ga
8P2P(ab
9AIReceiptOwnership(b
9aladinOwnership(b
:rityOwnership(b
;tOfUnsold$s(ba
<ner(b
:ttern(dbcedd
:useOperator(b
=d
:yment!(b
9et(bbl
9iece(ab
:xel(kkb
9lanList(b
<et(baaa
:usFee(a
9ointer
:ol(bba
:wer(b
9reICOCollected
>Funds
;Sale=(ba
?$s(ab
Fba
<igned(baaaej
Cbaaaedd
Bjbaaa
ABulk(gghhhpoo
ACheck(bbaaaej
AHashing(bbaaa
AMany(bghaaedd
;fix(cb
;sale(ba
?$s(ba
:ice
=ForTest
;vateReservedUFT(ba
?Sale(ba
<ileged(ba
:ofit(aa
?ba
>ToHouse
;mo~alShares(aba
;perty(kb
<osal
@Cooldown
@End
;xy(bbaaedd
Ec
=Ownership(b
9ublisherRecord(bb
:nk(ba
8Raw(ba
9eadable(ba
:covery(bba
:gion(aab
<strars(d
:maining
A(bba
A$s
G(b
Ia
:serveToMain
?d$s(a
;t$sToOwner
:venue(ba
<rseProxy(bbaaedd
DThirdParty(ghpoo
:ward(b
@a
>WithoutFee(ba
>s(baa
9ight(b
9obot(ba
:le(cb
:ot(b
:utingCode(db
9wrd(a
8SKM
9SPRecord(bb
9afety
:lesAgentPermissions(b
9ectors(Nb
;urityDeposit(bb
:nderPaysFee(ba
9hares(ab
?ba
:ortTerm$s(b
9ig(dab
;ner(b
>ship(b
:ngle(ba
9ketch(ba
9mart$Ownership(b
9old$(bba
As(ba
:ul(bb
9tackAndCall(baaaaad
;mpsToOwner(a
;r(ba
;te
<us
:bToOwner(a
:ep
:op
;rage(b
9ub(ba
;contractsOwnership(b"

end Listing
end EvmFlow
