/-!
# Known signatures, part A
-/

namespace EvmFlow
namespace Listing

/-- Known signatures from `` to `ICOaddress`. -/
def partA : String :=
"0
0(<Solidity>
2only>
2see>
4nd>
2you>
0A
1(aa
1AA(ba
2C
2contributors
1BDEL_ADDRESS
7LLOCATION
2I(d
5a
3Changed(da
1CCEPTED_AMOUNT
6_DICE
7EXCHANGE
2F|
2L(b
3YDCoin&
2O_$
2TION_BUY_OFFER_ACCEPTED
7INITIAL_BIDDING
7SELL_OFFER_ACCEPTED
7TAX
4VE_LOAN_CANCELED_BY_LENDER_STATUS
7STATUS
1D
2DITIONAL_BONUS_DENOM
ANUM
;PORTION
3RESS(ba
7_LIMIT
4_BOUNTY_TOKENS_ACCOUNT
5MAYA_ASSOCIATION
:MARKETING
:ORG
:TEAM
5OWNER
5TEAM_TOKENS_ACCOUNT
6KG_ASSOCIATION
9CHARITY
9NODE
9ORG
9TEAM
;CH_FUND
9VC
5WITHDRAWAL1
?2
2MIN
5ISTRATOR
5S_COUNT
5_ALLOWANCE
6CONTRACT
4SSION_TIME
2VISERS_AND_FRIENDS_WALLET
9SUPPLY
7_STAKE
=2
5ORS
8_ADDRESS
:ND_CONTRIBUTORS_ADDRESS
JTOKENS
=PARTNERS_PER_CENT
9CAP
9LOCK_DATES(a
9MONTHLY
9SHARE
:UPPLY_LIMIT
9TOKENS
?_PERCENT
@SUPPLY
9WALLET
7Y_BOARD_TOKENS
9TEAM_PORTION
7_FOUR
8ONE
8POOL_INIT
8REWARD
8SHARE
9TAKE_FOUR
>ONE
>THREE
?WO
8THREE
9OKENS
9WO
3_BTY_SUPPLY
4TEAM_LOCK_TIME
9TOKENS
2X
3Sold
2s(b
1EStoken
1FTER_MAX_GOAL_DURATION
2WBurn(a
1GENCY_ADDR
7TOKEN_CAP
2T
1ID
2H$
2RDROPBounce
7PER
7S_COUNT
9PERIOD
7_ADDRESS
9MOUNT
8CLAIM_AMMOUNT
8MAX
8SHARE
9TART_AT
8TOKENS
>_NUMS
?PERCENT
9RANSIT_ADDRESS
8WALLET
3_1
5_SUPPLY
42
5_SUPPLY
1LAP
2C_CONTRACT_ADDRESS
4DECIMALS
<FACTOR
4FOUNDATION_ADDRESS
5UNDATION_ADDRESS
2LOCATION(ba
:_LOCK_END_TIMESTAMP
5_ADVISOR
=S
>_BOUNTIES
7IRDROP
6BOUNTIES
6COMMUNITY
7ROWDSALE
6ECOSYSTEM
6FOUNDATION
;ER
6ILLIQUID_TEAM
6LIQUID_TEAM
6MARKETING
8X_PRE
6NEW_USERS
6PARTNER
6RES
9ERVED
6SALE
:_CORNERSTONE
;GENERAL
B_1
C2
C3
;PRIVATE
7C
6TEAM
6WINGS
4W_BETA
3ownersANDprices(a
1MBASSADOR_FIVE
<OUR
;ONE
;SEVEN
<IX
<TAKE
;THREE
<WO
2LWhitelisted(b
3_THRESHOLD
2OUNT
6WAGERED
6_BASETEAM
7ICO
7PER_PHASE
7TOKENS_FOR_SELL
8eamSupport
1NGEL_ADDRESS
2NOUNCE_WINNER_DEADLINE
2Placeholder(bb
2TS_TO_COLLECT_1ANTHILL
2Y
1OC_available
1PI
32
2OLLOCOIN_COMPANY_AMOUNT
2PC
3ROVE_CONTRACT
8OWNER
3_STORE
1RBITRARY_VALUATION_IN_ETH
2CD_FUND
9_DEPOSIT
3$(baa
2EF
4|
2I
3|
2K
3Controller_1_00
3Tagger_1_00
3_FLAGGER_1_00
4TROGLOg_1_00
4VOTER_1_00(aaaaaa
2TWORK_AUCTION_DURATION
8STARTING_PRICE
3_CONTRACT_ADDRESS
4DECIMALS
<FACTOR
4FOUNDATION_ADDRESS
1SHLEY_ADDRESS
8LLOCATION
2K_STAKE_RATIO
2SET_MANAGER_WALLET
2T
1TCController
3ReserveLocker
2L_PER_ATP
2MHolders(a
2N
2T
3R_CONSUMABLE
5EXPLORABLE
5GOLDENGOOSE
5LEASABLE
5PERMANENT
6RODUCIBLE
5SEEDED
5TRADABLE
3$
1UCTION_LENGTH
8STARTED
8TOKENS
8WHEN_PERCENTAGE_LOGIC_STARTS
2DITED_AND_APPROVED
<REJECTED
2THOR
6SIGHASH
4_ADDOWNER
5CANMINT
6HANGEOWNEDOWNER
5FREEZEACCOUNT
5INITCONGRESS
5REMOVEOWNER
5SETMINTAMOUNT
1VAILABLE_ADVISOR_SUPPLY
;IRDROP_SUPPLY
:BONUS1_SUPPLY
?2_SUPPLY
?3_SUPPLY
:COMPANY_SUPPLY
:FOR_EARLY_INVESTORS
<UNDER_SUPPLY
:IN_MAIN
=PRE_SALE
:JOINTTOKENS
:PRESALE_SUPPLY
:RESERVE_SUPPLY
:TOKENS
<TAL_SUPPLY
2G_BLOCKS_02W
;24H
1WD
3_SHARE
1_Free_Ether_A_Day
1borted
7(b
3ut
5Bill(a
5Kelvin
2stractSweeper(b
1cc(b
3eessoryWrapper721
4leratorStart
4pt(baa
6CastleOffer(a
6DiscipleOffer(a
6GuardianOffer(a
6RealmOffer(a
6TxTaskEvent(ba
6_Payment
6edApplica~(bac
8Ownership(b
6ingDepositsChanged(f
4ss!(b
6Grant(b
6Revoke(b
6oryCollec~(a
9SeriesCollec~(e
3ount=(ccaccaa
7Created(b
7FilledWithBonus(bam
8rozen(bf
7InfoList(a
8sFrozen(b
?ByDate(b
9NotFrozen(b
BForReturn(b
7Linked(bb
7MinterAdded(bb
=Removed(bb
7ReaderAdded(bb
=Removed(bb
7Structs(b
7;sFrozen(bf
@Thawed(bf
7Unlocked(b
7Void(b
7_balances(b
8frozen(b
8timePayout(b
7s(b
3umulate(ba
2~Types(d
4vate
8(bac
:bbb
9f
8d&(a
9Event(f
@f
7ionRequest(bd
:Withdrawal(vLexa
Fza
Ha
Gexa
5e
6Changed(bf
6Digger
6ProposalIds(e
>Num
6SalesPhase
5ity
3ualCommitteeRoom
6Queue
6ShareManager
6$Manager
6ize^(aaaa
>BeforeStart(aaaa
1dd
3(aa
5cc
3AdrJullarTeam(b
4mount(a
4pproved!(bb
4uthority
<!(b
3BTCTransac~(baas
AFromArray(ghh<bytes4[]>
4ill(aaaf
7Moderator(b
4onusToList(daa
>FromArray(ohh
5unty(ba
3Category(c
4ommitteeToMapAndArrayEvent(b
<VoteEvent(bb
3DataPoint(afc
4eposit(ba
4iv
3Eth
6=(ba
4xec(c
3Fish
7By$(ba
3Item(a
8bb
8caa
8ikakkc
3Liquidity(a
4ock(baaaa
3Manager(b
5rking(ddma
5tch(cca
4ember(bb
5ssage(bac
4od(bbf
6erator(b
4ultipleItems(ae
3NewBooster(amaaaaa
6Category(seeb
6PresalePackage(ka
:tige(aaa
6Small&(b
3OfficialApps(b
4wner!(bb
8ship(cac
>cc
3Players(b
4roduct(a
6moter(b
3Reserve(bf
:ToNetwork(bf
4ocket(iliiiiiiiili
3Share(baa
4upply(a
3Ticket
9(<bytes5[]>
5tle(accca
4oDB(b
5WhiteList(b
:list(b
5ken(b
:aa
:e
5wer(ikkaakk
4ransac~AgainstExistingEntity(baacc
5ust(ba
8ed(b
:&!(bb
3User(b
9a
8cba
3VerifiedInfo(d
3Whitelist(b
3_totalLotteryValue
3ed(acbaf
6b
7b
6d
5BlackList(b
5Manager(b
5Name(bcaba
5Precommitment(ba
8paid$sEvent(baaa
5ToGenera~(ba
7Holder(baa
@ea
7WhiteList(baee
7kenHolder(ba
3orModifyRig(aaaa
3r1
42
43
44
45
46
47
4Changed(db
5ommunityDistribute
4DevelopFunds
;Group
4Investor
4Marketing
4Ndx(b
4PartnerPocket
4RewardPlan
4ess
7ChangeConfirmed(bb
=Requested(bb
=d(ab
?cbb
7DailyReward(b
8efault
9scrip~Added(bc
7ForReturn
7Listed(ba
7OwnershipVerifica~
7Recovered(bb
9g
:istered(bc
7Whitelist(b
7_Submitted(b
2justBet?s(a
6ClientAccount=(dddcaca
6Difficulty(a
2mChange_README(c
3in
5(bf
5Access;red(bb
6ddFunds
8ed(b
<b
8i~(b
8ressChanged(b
5BuyForSomeone(kb
5ChangedFunding|(bb
6laimed(bb
7ose&
5Deleted(b
6rawError
9Process
5GetFee
5List(b
5Ownership;red(bb
5Removal(b
:ed(b
>b
5SetDrawer(b
6tartDraw(cd
6upply
5$Sent(ba
6ransferred(bb
@Ownership(bb
5|Updated(b
5_1(bba
62(bba
63(bba
64(bba
65(bba
5eAdvisor$s
6Team$s
6d(b
5istratorAdded(bb
Ef
=Removed(bb
5ship;red(bb
6tratorAdded(b
<Removed(b
4ssibilite_1(bba
>2(bba
>3(bba
>4(bba
>5(bba
2op~OfferCancelled(D
=ed(Dab
8RequestCancelled(D
?ed(Dab
2vanceQueue
7dDeposit(da
Ad
3ertisementPayout(a
3isorPart
8ool!
7s!
9mount
9ndPartnersMinted(bbaa
8Fund
8Partners
@?
1eron
1ffiliateCoinMultiSig|
9Received(bbf
2terSale;able@
1gencyLock1
:2
2grega~
2ing;(bbaa
2reementHashEn
=Ru
9UrlEn
<Ru
3iChainContext
:ultiva~
9Data
=&
:escrip~
DInt
:istribu~
:ocuments
9Label
>Int
9NextData
9PrevData
;oduc~
C&
9RootData
9Seal
9Type
2t
1i
2kcoinSupply
2rDrop
7(gh
7PayBitsBounty(g
>R1(g
?2(g
?3(g
7ped$s(a
3RewardTotalSupply
9maxTotalSupply
3;(gab
3aEtherFunds(bcc
?cc
3drop
7(ba
:a
9ga
8g
9h
72(a
7BeggarsCommunity
7Claim
7List(gh
7Mined(ba
8ultiple(ga
7One(ba
7Reward
7Single(ba
7_Limit
7ped(bba
7samount
3savecoin
1larm
5ClockTipFaucet
2chemy(aa
2erterAdded(bf
2faCoin
4coin
2lCaptcha
3InvestorsRefunded(a
3LockAccounts(a
3MarkingsProcessed(baaa
3PartnersSet(a
4rojectList(a
3ocate(baa
:ba
<af
8AgentChanged(bf
9ngel$s(bba
8BountyAndEcosystem$s(b
8Founder$s
E(b
Ga
8MainSale(ba
8Presale(ba
8$(ba
@a
>g
=s(b
8Unsold$s(bba
8d(ba
<f
9Crowdsale(b<PricingStrategy>baaab
7ion(aa
:Granted(bbaf
:Processed(bba
:Revoked(bba
4wClaimBTC(f
5Everyone
6xchanger(b
5Success(bb
5;(b
=External
=Global
=Local
5WhiteList
5_Entries
5ance
9(bb
9Granted(ba
9Ledger(bb
5ed!Added(b
7Contribu~Check(ae
7Gas^Updated(a
7RecipientChanged(bf
7Set(b
2phaChainConstructor
5betConvert(b<token>
2tBuy(bac
3Crowdfunding(b
3erMediatorSettings(bn
5_MediatedTransac~(af
6TrustlessTransac~(af
3ruismMode(baa
2waysFail
1merico$$
2ountClaimed(ba
6Raised
<(ba
7eceived(ba
6Sent(ba
8t(ba
6ToDistribute
8ForgeTheNextBlock
9und(a
8Little
6_of_AOC_for_One_ETH
:Chi_for_One_ETH
1ngel
5InvestmentAddr
2nihilated(baa
3ounce_winner(bba
8ment
<s
2otherOwnerAssigned(b
7Participant(baa
2swer
6(c
2thills(b
3iqueCoin(ba
1pexIssued
4Talk
2olloSeptemFinalized
<Started
<$Purchase(bbaa
ASpecialPurchase(bba
2pAdded(bcbaf
3Set(b
4upply(ba
3Updated(bcbaf
3icsFund
3lica~
;Entity
;InFundingOrDevelopment
<sInDevelopment
4y_Store_Id_Fee
3oint(ab
7_Mediator(a
3roval(babj
:b
;a
;ba
;d
<f
:f
8Denied(bb
8Event(bba
8Flower(bba
8Hash(dda
8$(bba
6e(a
8ba
9ba
:da
7AndDo(badc
:transfer(ba
7FinishMintingRequest
7Mint$s(ba
7Title(a
7d(b
:a
:ba
<c
8By(ab
;b
8Funds(bf
8Investor(b
2ushJoustUser(b
1rJoust(aa
2agonSupply
2bTokFromHGame(a
3itrate(iif
2ea^(aaa
3nplay$
2ith
5Lib
2rAccountIsFrozen(a
BByDate(a
<NotFrozen(a
EForReturn(a
3holders(a
1side$sHaveBeenAllocated(ba
2k(aab
2setCollec~(d
?IdToName(e
?Num
6reated(b
5Registered(bccca
5Withdraw(ba
3ign(ba
6!(a
6BurnFees(ba
6FeeTo|(bba
6$(ba
6WhitelistManager(b
6ed(ba
;a
2t
3erionWorld$
1teamBets(a
2tachAsset(a
5k(b
3empt(ba
3ributesSet(ba
1uc~Canceled
=led(a
Ba
Bba
Aba
Cb
8losed(ba
8ompleted(aab
8reated(aaaa
Cf
Bb
@baaa
Da
?baaaa
Da
Db
7Ended(a
=ba
7Finished(ba
Baalab
7Master
7Paused
7Resumed
7SoldOut(a
8tarted
>(a
@a
?da
?llb
8uccessful(aab
Ea
Eba
Bbaa
Eb
7Won(llba
2dit=s
5Outcomes(d
5Requests(d
5SafeGuard(r
5orRegistered(b
=ryReplaced(bb
7Unregistered(b
2th(eb
4Addr(b
:bb
6min(bfa
4Cancel(bb
5omplete(bb
4Dapps(bfff
4End
4Init(b
4Pending(b
4Start
5uspend(f
4enticate(aba
4orise(qbb
7tyNotified(cc
7za~(bb
=Set(bf
8e(bb
9Operator(bbf
9Payments(f
9ServiceProvider(bb
9To;(b
9d(b
:Create(ba
@ToPrivate(ba
:User(b
3oBuy
4Sell
4releaseDelayed
;Triggered
5izeRefund
1vailable
9Commission
9$Pool
1ward(ba
5edMissedBlockBonus(bbadaa
5s(a
0B
1(a
1ACE_ETH
2D_ERC20
2G_TRANSFER_FEE
=MINIMUM_AMOUNT_OF_BUYS
2Investor
2NCOR_CONVERTER_FACTORY
AUPGRADER
7FORMULA
7GAS_PRICE_LIMIT
7NETWORK
3KROLL
8ER
8_LOCK_PERIOD
2Q$
2SE
4PRICE
4_AMO_TO_ETH_RATE
5CLB_TO_ETH_RATE
5DURATION
5HARD_CAP_PER_ROUND
5MIN_CONTRIBUTION
5POS
6RICE
:_IN_WEI
5RATE
6EWARD
5TEAM
6IME_TO_COOK
5URL
3IC_RATE
3ales^
2T
3Safe(b
3TLE_CASUALTIES
7POINT_DECIMALS
3sPerEth
1CBCYCoin
2E$
1EGIN_TIME
2NEFICIARY
2T
3NetworkTeam!
3TING_CLOSES
8OPENS
3_RELEASE_DATE
4TYPEHASH
2Y
1FTcoin
2ree&
1GB_address
1IDDING_DURATION
3_DELAY_TIME
2GSELL
3TPrivate
4$Deposit
3_NUMBER
2LLION
7_TOKENS
2ONICCOIN
2RTHDAY
2T
3=Of(b
3CLAVE_AMOUNT
4OIMINIG
6NGAM
3DINERO
3SD$Initialized(b
3Whale=
2ZDEV_WALLET
1JJhis(a
3table(aa
1KBK
1LMFund
2OCKCHAIN_DEPOSIT_BETA
G_1M
5SUNTILCLEANUPSTACK
6_PER_PHASE
5TIMEOUT
5_BASIC_PRICE
6DURATION
6PER_PHASE
3_PER_WEI
2S_PRE_ICO
4TOTAL_CAP
2U
1MV
1NB_HARD_CAP
4MIN_CONTRIB
4TOKEN_PRICE_DENOM
@NUM
2C_CONVERTER_FACTORY
>UPGRADER
4FORMULA
4GAS_PRICE_LIMIT
4NETWORK
2N
3_ALLOCATION
2T_TOKEN
1OARD_RESERVED(a
>_PERSENTAGE(a
?YEARS(a
2NUS
51
6_LIMIT
52
6_LIMIT
5ED_PURCHASES_LIMIT
5ONE_DATE
5TWO_DATE
5_100_250
75_DAYS
6250_500
7_DAYS
63_DAYS
64_DAYS
6500
8_100
7_DAYS
66_DAYS
6AMOUNTS(a
=_VALUES(a
6BATCH
6CAP
7OEFF
6DATES(a
8Y1_DURATION
92_DURATION
93_DURATION
7URATION
>_1
?2
?3
6HI
8_QTY
6ICO_PERIOD_ONE
ATWO
:ROUND1
?2
?3
:STAGE1_PRE_SALE1
I2
I3
I4
I5
?2
:WEEK_ONE
?TWO
6LATCH
7EVEL_1
<2
<3
6MAX_DURATION
7ID
9_QTY
8N_DURATION
6PCT_IN_ICONIQ_SALE
=VREO_SALE_PHASE_1
M2
7ERCENTAGE
7RESALE
9_ICO
6REWARD
6SCALE
7LAB
7UPPLY
6THRESHOLD
7IER1
:2
:3
:_1_LIMIT
;2_LIMIT
;3_LIMIT
;4_LIMIT
;5_LIMIT
;6_LIMIT
;7_LIMIT
;8_LIMIT
;9_LIMIT
8MES(a
;_VALUES(a
7OKENS_RESERVED
6WINDOW_1_END_TIME
=2_END_TIME
=3_END_TIME
=4_END_TIME
7L
2OKIE
6S(a
6_POOL_COMMISSION
2Ps(a
2UNTIES_SHARE
5Y
6_ADDRESS
8MOUNT
7CAMPAIGN_SHARE
7EXCHANGE_RATE
@SHARE
7FUND
7LIMIT
7PERCENT
7REWARD_SHARE
7SHARE
8UPPLY
7TOKENS
=_AMOUNT
>LIMIT
>PERCENT
7WALLET
3TSPRO_AMOUNT
2XS$
1PX_per_ETH
2_ATHENIAN
3IMMORTAL
3PERSIAN
3SPARTAN
2s(a
1ROKER_RESERVE_ADDRESS
?SUPPLY
3NZE_AMOUNT_NDC
>SKL
>TPT
>XPER
1SP$
1TCCCoin
4ollected
3^
3Rate
4eceived
3S_ETHER_CAP
5PORTION_MAX
3TKN
4ransac~s(q
3USD
3Value
3_SUISSE_TIER_1
@2
@3
@4
3proxy
2Ecoin
2Imint(ba
2L_ATHENIAN
4IMMORTAL
4PERSIAN
4SPARTAN
2NSold
2TPERETH
3S$Listing(bbcceaff
9Updated(bb
2WO_CLAIM_PERCENT
1UCKET_SIZE
2ILDING_PRICE
2RNABLE_UP_TO
4_ADDRESS
5SERVICE_NAME
2SINESS_DEVELOPMENT_SUPPLY_LIMIT
2XCOIN
2Y
3ER_CAP_HIGH_USD
:LOW_USD
7HECK_STEP(d
6STEP_1(d
;2(d
;3(da
;4(daAb
;5_CANCEL(d
3OUT_PRICE
3PRICE
3_BACK_BONUS
4CITY_FEE
4INCREASE
4ME
1abyBorn(ca
2ckupChanged(bb
2d$Of(b
3ge
2gSold(aaaabb
3holderAddr
2ilout
3ronSupply
2kt(bdb
4Factory(bdb
2l
3(b
3ance
7(a
8cab
7Changed(ba
@ba
9eck(a
8laim(b
7Eth
7Locked(baaa
7Num
7Reader
7dPonzi
7s(b
8Initialised
3lot(e
7o
2nAccount(bf
4ttempt(bba
3anaBasket
3k(aa
4Deposit(ba
4Owner_EnableConnectBankAccountToNewOwner!
:GetDona~s=
:WithdrawDona~s
4Withdrawal(ba
4_With_Interest
4ingPay$
4roll
3ned(bf
7c
2rneys4HackerSpace$
2se
4AgriChain&
4ExchangeRateChanged(a
4^
4Registry
3icCoin(ab
2tLimitAsk
3ch(a
5AttachAssets(<uint256[10]>
5CancelSales(h
6omplete(a
6reateSaleAvg^(haaalb
?s(haalb
5DetachAssets(<uint256[10]>
5Paint(eh<bytes3[]>h
3tleResult(bbhhfkaii
1cigarcoin
1eat$Eth^Changed(a
9IcoFinalized
<Phase1Started
A2Started
A3Started
9PreIcoStarted
:urchased(bbaa
2comeSnailmaster
7piderQueen
7quirrelDuke
6TadpolePrince
2erCoin(a
2gin(c
7c
2llaBlu$
5Standard$(acec
2neficiaryChange(b
Ad(bb
;Stake(a
2stCount$s(a
4EtherSupply
4|(b
4_Bank_with_Interest
2t
3(a
5c
4baaa
6baaaba
5baaa
3Accepted(aebaa
4dded(abaaa
4nB
3Canceled(ba
4hampion(a
4losedNoWinningTeam(ba
4omplete(faaab
Aa
Bf
3Executed(aba
3FromTransac~(ba
3Lost(ba
3Made
3OnATeam(baa
5HardFork
7shV81
;2
;4
4verlap
3Payout
4laced(aaba
;baa
:ba
<a
<e
;ea
:debfaS
4riceLimit
3Submission(a
3Won(ba
9a
3herCryptocurrency
3r$Purchase(bbaa
3streak$
3ter_Bank_With_Interest
1hinnekamint(baa
1icycleSupply
2d(aab
5baa
4ba
6ba
5ca
4e
3Accepted(aa
3Canceled(aa
3FailedEvent(bac
3Placed(aa
:debafS
3Revealed(dbae
3Saved(<tuple>
4ubmission(ba
@a
3dingRing(ba
3s(a
5b
2g
3Risk
2ll(a
2rth(aa
8a
7cb
9d
6ba
8aa
:aa
5Fee
5dayBoyClickHere
2tAlphaAirdrop(g
3coinGreen
7Pro
7RateUpdated(aa
8ed
7SamaritanSupply
7_address
3fury$
3hereum
3rootCoin
1lackJack
5listParticipant(b
2obStore(<BlobStoreRegistry>
3ck!(b
5ChainChallenge
:Enterprise
6laimedEvent(bbaa
5ICOdatetime
5King
5LockSet(a
5Mined
5Refunded(b
5SwapWrapperGolemNetwork$
5ed(b
5hashFetch(b
5jack(bb
5lab$V1
5sToGo
8ken
6ureInfo
1oard(a
5!Changed(bbb
5Claimed(aab
5MeetingClosed(aaf
<s
=(a
2kkyPooBahWuzHere
;sAutonomousRefundathonFacility
Rund
<EtherRefundablePrize
2ndInfoById(i
4s(i
3us
5(a
6ba
5Alloca~(bca
Bca
6mountUpdated(a
5CalcPos
6hange(a
;d(aae
=ca
=ee
5Dealer
5Earned(ba
6nrolled(baa
5FinalizeAgent(<Crowdsale$><Crowdsale>ab
5Granted(ba
5Issued(ba
5ListUpdated(bb
5PeriodFor(a
;sCount
6oolSupply
5Referred(bbaa
5$s(bba
5Updated(a
5WhiteList(bbaa
6ithdrawn(ba
5_Pool;(ba
5esAllMinted(b
7Distributed
7Updated(bf
5timer
2okCafe
5reated(b
4ie(bb
5ngUpdate(baea
2tAdded(b
3Removed(b
2ught(aba
8cbacc
7ba
6Block(aaabdddd
6$(ba
;s(ba
?aaa
6ViaJohan(ba
3ntiesMinted(bbaa
8_|
5y
6(ba
60x$
6Activated(ab
7dded(dc
7gentChanged(bf
7mount
6Campaing|
7hanged(a
6Distributed
6Fulfilled(aba
8nd
6Issued(a
=ba
6Killed(ab
6ManagerEntity
6Part
6Sent(d
6;(bba
6_Supply
2xChange(ba
1ranchSender(ad
4dAdded(bbcf
5Updated(bbcf
2eak
5up(a
2iant2$
3bed(aa
3nkzSupply
3tishcoin
2o
1st
1tcEthRateChange(a
2eamBets(a
1ucketAndValua~AndCommitted(aaa
6Buy(daba
6Created(dal
6Destroyed(da
6Sell(daba
2ilded(bb
5ingTypeMetalNeeded(a
<SquaresOccupied(a
2lk;
<(ga
>h
2rn
4(a
5ba
7<Xaurum$.BurningType>
7a
8j
7c
7j
6ba
6da
4All$s
5ssignedFees(bb
Ca
4Confirmed(aba
4Event(ba
5xecuted(aba
4From(ba
:ba
4Gas
4Me
4ProposalAdded(aba
4Receipt(ba
4Split(a
4$(b
;a
:g
9s(a
<a
;ba
=f
<ba
:From(ba
4Unsold$(a
4ableCrowdsale$(ccaaf
8OpenPayment(ba
4ed(a
7ba
8ba
6AllRemained$s
4t(ba
8a
5_$
3ritoPurchased(aba
3y(ba
2st$s(ba
2ttcoin
4onClicked(b
2y
3(a
5a
5baaaa
9qd
4b
5a
6a
7a
6b
5ba
7a
8a
4c
5baa
4dbaabb
4ec
6c
4iffb
3ARXtokens
4corns
4d(bacccaeb
4sset(a
3BSTtokens
4ackStart(aaa
4ooster
:(a
3CarCompleted(ba
6Failed(baa
4hestSuccess(a
4reditsByEth(a
4urrentTypeOfAsset(a
3Doubler
3EBETtokens
4ggs
4vent(baaa
3FST(baaa
4orEtherTransac~(baaaa
6Friend(bbaaa
6HKGTransac~(baaaa
3Genesis(b
4old
3HORSEtokens
4andler(a
3In
4tem(a
9c
3Keys(a
9a
3LandsByEth(a
4evel
4imit(a
4oan(baa
3MOY$s
3NowEvent(bbaa
3OnSecondaryMarket(i
4p~s(bace
4rder(abaaaa
9dbaab
8sOf(ba
3PresalePackage(eb
5ice
8Changed(a
8Set(a
3RC(bjaaa
4TCtokens
4ateChanged(aa
4ocketForSale(i
@Event(bbi
3StartingSnails
6tus(a
5ockRocket(kb
>Event(biib
3Ticket(eee
9ForOther(beee
9s
:(a
4oken
8(a
9baa
;c
;d
9d
8s
9(b
;aa
<c
9Direct(b<uint72>44
9External(bc<uint72>44
9WithAffiliate(b
=$s(bbaa
4roop(aa
3Upgrade(a
3WithBonus(bbaaa
7PathwayFromBeneficiary(ba
3_Wall_level_in_wei
3erLottery@s(b
3in(baa
9a
3out(bbaaaa
6Dividend(bbaaa
1xcoin
1ylawsBytes32(d
6Uint256(d
0C
120$
14FID
1AC
2LLER_EXCHANGE_RATE
@SHARE
2NCELLATION_FEE
7ED_FEE_FLAG
3ONICAL_PRICEFEED
2P
3PED_SUPPLY
3_USD
2RD_TAKE_SHARE
2T
3&
3Payment(bba
3RefundedForWei(ba
3Withdrawn(a
3_FIRST
4PER_ETH_BASE_RATE
<FIRST_EARLY_BIRD_RATE
<SECOND_EARLY_BIRD_RATE
2USE
1CN
2PayoutArb
1ELLS_TO_MAKE_1_SPERM
2NTS
4_DECIMALS
2O
3!
3Signature
3_SHARE
5ignature
4TEAM
8_SHARE
2RTIFIER
2x(b
1FO
3!
1GC
1HANGE_PERMISSION
2ECKPOINT_KEY
2F_CENT_PER_TOKEN
2GUSDPRICE
2INA
4ESE_EXCHANGE_1
A2
A3
A4
ABUYIN
2UNK_SIZE
1IRCULATING_BASE
3_SUPPLY
2TY_INCREASE_RATE
5PRICE
5START_PRICE
2zTezt(c
1LAIM_AMOUNT
<_ETH
6DEADLINE
6INTERVAL_DAYS
6STAGE
3SS_AQUATIC
6BEAST
6PLANT
3WBACK_PERIOD
2IENT_TIME_TO_DECIDE
3FF_DURATION
4orGas
2NRaised(bba
4efunded(bba
3TotalSupply
3_PER_ETH
2OSE_TIME
4ING_TIME
3UDForGas
2otteries(a
1MO
3Signature
3_SHARE
5ignature
1NDTPrivate
4$Deposit
2T_address
1OINS_PER_ETH
6TO_HATCH_1STRIPPERS
4_COST_ICO_TIER_1
C2
C3
5PER_ETHER
>_ACTIVE
?BOARD
?SUPPORT
5SUPPLY_COMPANY_TOTAL
<ICO_PHASE_0
F1
F2
F3
@TIER_1
E2
E3
AOTAL
<MARKETING_TOTAL
=KT_TOTAL
<TOTAL
2LLATERAL_HELD
3ORS(a
5_BLACK
8UE
7ROWN
6CUSTOM
6GOLD
7REEN
9Y
6NOT_AVAILABLE
6PINK
6RED
6SILVER
6WHITE
6YELLOW
2MBINED_WEI_GOAL
3MISSION
:_DIV
>IDER
;PERCENT
BAGE
;WALLET
4ON_BUDGET_AMOUNT
7WITHDRAW_SUPPLY
4UNITY
9_ADDRESS
<VISERS_STAKE
;LLOWANCE_LIST
:BOUNTY_HOLDER
ASTAKE
:CAPPED_VALUE
:PERCENT
;LUS_PRIORITY_SALE_CAP_ETH
;OOL
>_ADDR
?TOKENS
:RESERVE
:SALE_START
;UPPLY
:TOKENS
4_ADDR
5SUPPLY
3PANY_ACCOUNT
9LLOCATION
8RESERVE
?_FOR
8SHARE
8TOKENS
>_LOCK_PERIOD
?PERCENT
8WALLET
4ETITION_VERSION
4LETION_STATUS
5IANCE
2N0217
3FIG_DURATION
7FEES
7MAX_PLAYERS
;TICKETS
;VALUE
8IN_PLAYERS
;VALUE
7PRICE
7RETURN
5RM_LIMIT
4LICT_END_FINE
3SENSUS_DURATION_RATIO
3TENT_FUND
5ST_INTERVAL
4INUE_MINTING
4RACTIUM
8_ADDRESS
:LLOWANCE
9FEATURES
9HOLDER_BONUS
9NAME
9PROVIDER_ADDRESS
9VERSION
5IBUTIONS_MAX
?IN
<_END
=MAX
@_NO_WHITELIST
>IN
=START
9ORS_SHARE
7_PERIOD1_STAKE
>2_STAKE
>3_STAKE
3VERTER_CONVERSION_WHITELIST
2O
3LDOWN_PERIOD
9TIME
3PERATE_REWARD
3_SHARE
2PPER_AMOUNT_NDC
>SKL
>TPT
>XPER
2R
3E_TEAM_PORTION
:TOKENS
4thExchangeRate
3NERSTONEAMOUNT
3PORATE_SUPPLY
4ayCoin
3RECTION
4eserveAccount
;lloca~
2SIGN_MAX_TIME
2UNTRY_NAMES(a
2_FOUNDER_PORTION
1PCEFund
8Deposit
4Ico
7Deposit
4Private
;Deposit
2GPEREGRINE
<_EXTRACTION_BASE
=FTL_SPEED
=MAX_CARGO
2LPrivate
3$Deposit
2O
3_SHARE
1RAWDSALE_EARLYBIRD_END_DAY
;ND_DAY
:START_DAY
2EATED_PROMO
8STAR4
<5
6_AMOUNT
5ION_LIMIT
5ORS_WALLET_ADDRESS
7_TOKEN
=_END
2LperEther
6MicroEther
2OSAIR_MAX_PRICE
8PRICE_INCREMENT
>THRESHOLD
8SHIP_LIMIT
=PRICE
8VOUCHER_LIMIT
@PRICE
4S_RESERVE
=_FTX
3WDFUNDING_PERIOD
5SALE_ACCOUNT
;LLOCATION
>WANCE
;MOUNT
:CAP
;LOSING_TIME
:DURATION
:ETH_IN_WEI_ACCEPTED_MIN
EFUND_MAX
KIN
>WALLET
:GASPRICE_IN_WEI_MAX
:HARDCAP
:LIMIT
:MAX_ACES
:OPENING_TIME
:PHASE_1_START
@2_START
@3_START
;RICE
:REWARD_TOKENS_NUMS
AWALLET
:SHARE
;TART
;UPPLY
:TARGET
;OKENS
@_NUMS
?_IN_WEI
:WALLET
@_ADDR
;EI_CAP
>GOAL
5_SUPPLY
6WAVE1_BONUS
<PERIOD
:2_BONUS
<PERIOD
:3_BONUS
<PERIOD
7EEK1_BONUS
<PERIOD
:2_BONUS
<PERIOD
:3_BONUS
<PERIOD
:4_PERIOD
2S
3Account
4lloca~
2TSTAL_MINING_PERIOD
2YPTO_USD
1SClosed(f
2E
2GOBets
1T
2H$
2O
3!
3Signature
3_SHARE
5ignature
2U_ADDRESS
2World
3token
2X_Cap
1URRENTLY_ISSUED
3VE_CUTOFF_DURATION
2STOM_ERC20_BURN_SERVICE_NAME
=CREATE_SERVICE_NAME
=MINT_SERVICE_NAME
2TOFF_PRESALE_ONE
?TWO
1WC_!
3fallback(baj
3returnQuery
>Data
1XLExchangeRate
3TotalSupply
1YFM
1aData!
6&
2feDelivered
4Maker
4Payed
2lcAll
4Hash(j
4Period(ba
4ulateFinalDistance(dddd
9Payout(daae
:riceofRigs(aaa
9Reward(aaa
9Sqrt(a
8ionUpdate(aaaaaa
3lAborted(bd
><bytes18>
4Cancelled(d
4Executed(baaaf
>d
4Rejected(bd
=d<bytes15>
4Scheduled(b
>d
3m
2mpaign
8Added(abi<uint96>kka
8Beneficiary
8Closed(a
8Open(a
8Pausd(a
8Resumed(a
8$
2nChange
3Mint(f
3;Checked(fbff
3YaCoin$
3cel
6(babaaabedd
7c
7lbbam
6Auc~
=(baaalab
6BuyOrder(dbaab
Bb
6Game
:AfterResultsPublished
6MyInvest
>ment
6Order
;(a
6RoundAndRefundAll
G(a
6Sale(a
7ell(a
;baa
:Order(dbaab
Cb
@i
7impleOffer(a
7ubscrip~(bb
6ed
8(ba
;bbabaa
8Auc~Event(bbaa
6led(b
9ByBuyer(d
;Seller(d
6ot(bb
3dyBox
5DropIsOpen
9Open(f
5Rate
2pFlexed(i
3Level^
3Reached
:(ba
5vealed(aab
3Updated(a
<da
2rDeregistered(a
;ra~Faled(a
3Registered(a
9ra~Failed(a
3Updated(a
3dCount
5reated(baaa
4Factory
5ootballers
4Swap(baa
4s
5(a
3losMatos
2shDeposit(ba
4ForHardwareReturn
4Move(adbb
4Out
7(a
8j
4Saved(a
4ing(ba
3tleSaleToBuyer(a
2tAdopted(Dabb
3Bought(aabb
3Destinity
3Named(Dd
4oLongerForSale(a
3Offered(aab
3Rescued(bD
3;(bba
3egoryAdded(ac
8CapSet(aa
8Deleted(a
1ecCoin
2lebSold(aaacbb
2ntrallyIssued$(bccaa
4s$!
5pooladdress
2o!
2rtAdminAdded(b
9Deleted(b
9s(b
4ID
4ificate!es(d
;Structs(b
;s(b
:ionCentre(b
=Deleted(cba
=Set(cba
7erDb
2vacFund
1ft=Of(b
1hain1
52
53
54
5y
3llengeFund
3mpionGameFinished(abaa
<Started(aa
3nceOfWinning(a
4ge(ac
7babab
8bbaa
<aa
6ActiveDigger(b
7ddressTrust(bf
8min(b
;|!(ab
7mount^(a
7uc~Master(b
6=(babaa
7illLeasingInfo(aaaf
7onus(a
7urnBoundsEvent(aa
@Opera~Event(aaa
8yRate(a
9er(b
6Claim!(bb
<mount(a
7ollector(b
8mission(a
9munityHolder(bb
8ntractName(cc
9versionRate(aa
8st(a
<a
:ByManager(a
7rowdSaleDate(ea
:ner(b
6Database(b
9e(i
:s(aaaa
7iscount(e
6EmployeeState(bee
7nd(a
9ByManager(a
7th^(a
9erGasProvider(b
;Vault(b
7xtension(af
6Fee(e
:k
9d(da
7iliate(b
7ounderMulSig!(ba
@tiSig!(b
=|!(b
=s|!(ab
7reeze@(aa
6GameHidden(b
8sRequired(a
;uired(a
6Hold(bbae
6ICOEnd(a
9Start(a
7nsuranceFeesOpera~Event(HHHHaHHaa
;erOpera~Event(ba
8terest(aaaaf
7temOwnerID(aa
:^(a
6LEX$!(b
7icense(bf
6MainAccount(b
:|(b
8nager(b
7emberName(bcc
8ssage(cc
7in?(aa
9Sale?(a
9ingReward(a
6Number(c
6OfRules(aab
@m
7perator(b
>Account(b
7wner(b
=b
>a
;2(b
;&(b
;To(b
;ship(b
6PC|(b
7ool(4
7reICOStart(a
8ice
;(a
9vilege(bff
8otec~@(an
6Rate(a
<aaa
:Of$(aa
7eturn(ba
8useCashInHarware(fkk
7ules(aaaa
6Sale@(aaa
7ellRate(a
7haredExpense(aaa
8ipSellMaster(b
7tart(a
;ByManager(a
7wapper!(b
7ymbol(c
6TankSellMaster(b
8x(k
7eamHolder(bb
7oken(b
;&Owner(b
;Informa~(cc
;Manager(b
;Name(b
;^(a
;Symbol(b
;Vault!(b
;|!(bb
8talSupply(aa
7ransferStatus
D(f
6USDto1ETH(a
7pgradeAgent(b
=Master(b
6|(b
>b
7hiteList(bf
6d(c
7FeePercentage(a
7Id(bc
8nitial^(a
7Name(bc
8eighbourReward(a
7Owner(b
>b
7PaymentDestina~(bb
7Resource(d
7$s(ba
6tokenManager!(b
4nelAudited(a
7Bought(cbb
7CloseRequested(ba
GbiV
<d(ba
8ontract!Changed(bb
8reated(bbV
?cb
7Deleted(bb
Ab
7New(bbba
>baaa
:=(bbaa
7SecretRevealed(db
9ttled(a
?bbiV
CV
7ToppedUp(bbiV
7Withdraw(bbiV
3rgeFee
6rsCount
4ity(ab
8c
7InProgressSupply
A|
7ReservesSupply
?|
7Split(a
4lyLifeLog(cm
4terCapital
2eck
5!Verified(b
5=(b
6est(ab
5ChangePlatformFlagAndAddAccountsInfo(bba
5Exec(c
9u~(c
5Hash(d
:eeeed
5IfIsAllowed(b
5Numbers(<uint8[5]>
5PrivilegeAccomplishment(a
8ze(b
<a
7ofit(b
8ofOfOwnership(d
5RefundIsFair
7sultCalled(db
5SoftCap
5Tickets
<(baa
5UserVote(ee
5ed
7(cfafa
2i_available
3cken
3llIssued
5Talk
3neseCookies
2ooseA
7wea
6B
7wea
3u(e
1icada$
2ndicatorIssued
:Talk
2rculatingSupply
9onEnabled
2tyBuildingsCount(a
6sinessCount(a
4SalesTransac~sCount(a
1laim(ba
8a
8fc
7b
8b
6c
5?
5BTC(c
6alance(ba
6lessings
5Disbursement(ba
7vidend(bbaaa
5ESC(ba
6th
8ersEvent(baaaa
6xecuted(aab
5FromPool
5GMT(ba
5Hodl$(baa
5MTU(f
6yBet
5Orichalcum
5Removed(bbda
7ward
5SHIT(ba
6et(bbdda
5$s
;(ba
=ba
;Event(baaaa
5_TRAC_1850
;20000
;3800
;900
<600
5ed(b
9a
7?
7Signature(bc
7$s(ba
@aa
?ba
7Wei(a
5ing@Limit
5s(b
3ssicCheck
2ean
4rExpiredFreezingEvent(b
5ing(ba
2ickButton
3ent
6OrderEvent(ben
Da
6PaymentEvent(beem
6Qty
6Updated(bb
6s
7(b
7Notified(cc
3mateCoin!
3p
4$
2ose
5(b
5Div
6ona~
5Forecasting(k
5Gift
5IfBug
5PeriodEvent(aaaa
5SaleFund
5d
6Manually
4ing@ForCloning
1oOwnerSet(b
2Withdraw
2deEligible
2efRew
2founderSwitchedEvent(b
7itICO(aab
9$(b
2in
4Alloca~(b<int64><int64>
4BroSupply
7$
5uy(ab
4LLeague
4Movement(bb<int64>
4SaleActive
5ent(abc
5torage
4;(ba
>ba
4VillaIssued
9Talk
4_Character
4age(aaaaaa
4flip
4park$
4sLimitUnalterableInteger
5RemainAfterICO
7trieved(ba
4villaSupply
2la$$
3lateralNotReturned(a
=;ed(a
:Posted(bla
:Returned(a
:Seized(ba
:;Canceled(a
Bed(a
4ect(a
9a
8ba
7AllFees
8ndReduceFees(a
7ERC20(b
>a
7FromTransac~(ba
7Money(a
7Payment(bba
7Returns
7_accrued_interest_and_transfer(ba
7edAllFees(ba
9_Ether
7ibleBidEntered(aaab
>Withdrawn(aaab
<ought(aaabb
;NoLongerForSale(aa
;Offered(aaaba
;;(bbaa
8on(e
3orIdToLastPaid(a
9Owner(a
5Purchased(bbaa
5Reserved(ba
2mission(bda
3mand(bj
4ission
:(a
:EarnedEvent(ba
5t(abd
6ted(b
8eLimits(aa
9s
:(a
4onError(j
4unity!
9$
3pany
7Name
7$
<Issued(bbaa
<Pushed(ba
<sIssued(baa
4ensa~FailEvent(ba
<SentEvent(ba
5ti~Store
4lete
8AddOn(ab
8Init
8Wildcard(ab
8d(b
4osed(ab<uint32[5]><uint32[5]>cc<uint8[20]>
;MMcc
5und_now_Accrued_interest
4uteAcorn^
7Buy(a
7EggsSinceLastHatch(b
7MyEggs
7Sell(a
7VestSpend(b
7dGainsRate(ba
2ncludeCrowdsale
8Presale
3di~sAdded(ba
3ference
4ig(eb
6Promoter(a
6ureFunc~(bakkk
9d
:(bb
5rmDispose
7Manager
7Owner
7Transac~(a
7a~(ba
>d
?f
<Needed(dbabj
<s(db
7ed(b
;b
5scate(ba
3gress(aamb
3strctor
6uctByCredits(aa
;Eth(aa
9ed(ba
9or
;(acc
4ultaProva(b
>c
8Registro(c
Ad
7ing(bb
:Half(bb
5me(ba
7rAddi~(b
8Removal(b
3tentChanged(dd
7s
5st
7Announcement(b
7Closed(agg
4inueSuspendedEmployee(bii
4ract
8Added(ba
>cb
;ress
8=
8Call(ba
9reated(b
=ion(bb
8Deployed(b
9isabled
@(a
@Block
@Event(a
8Edited(cb
9nabled
9thLimitChanged(aa
9vent(cc
8FeeChanged(aa
9rozen(f
9unded(ba
Aa
8Info
:stantia~(bb
8Locked(ac
8MadePermanent(c
:nagementUpdate(cbbf
8Name
8Ownership;red(b
8Play
9urchased
8Removed(b
8Status
8$sReclaimed(a
:talMined
9ransfer(bbaj
8Update(bbaaa
:grade(b
8_Owner
8balance
8orAdded(aba
:Created(bbbb
:ManagerSet(b
:ProposalAdded(aabaa
BClosed(aaba
:s
;(a
5ibute(<bytes24>
;ba
<ba
;fe
:WithSender(feb
:d(baa
?aaa
Baaaa
Ef
;?
9ion
<(ab
=ba
?a
@a
>bba
<Accepted(baa
=dded(aba
=mount
<Made(ba
=inimumUpdated(a
?ted(baa
<Received(ba
Gaa
Ffaaa
Geaa
Edbbaa
>fund(ab
>gistered(dba
>solved(dfbbaa
<StateChanged(be
<ToPrizeFund
9or=Changed(ba
;sSupply
5olled
9r
:(bba
:Burn(bda
:Changed(b
:Retired(b
AForever(b
:Set(b
:_!1
B2
B3
3version(bbbaaaa
@maa
:Aborted(ac
:FeeUpdate(ii
:RateChange(a
:SentToShapeShift(abba
;tarted(a
6tBkp(a
7ColouredBkp(b
7Numbers(D
7ed(ba
2oldownThreshold
2re!
4Mediator
4TeamAndFoundersSupply
C|
8Minted(bbaa
2st
2tte$
2untBusinessesPerType(a
5Cow(b
5Execs
5$User(baf
5erPartyDeposit
7sUpdated(aa
5ryPurchased(aba
7_code(k
3pon(baa
6Deposit(vLexa
?za
@exa
3rseChanged(aa
1rack(baa
3tesOpened(be
6Purchased(be
3zyEarning
2eate(aai
7ba
9bc
8b
7ddbbbl
7ib
6ACI(ba
7LLY(ba
7PP(ba
7RCD(ba
8TL(ba
7ds(ba
6BAT(ba
7attleCards(aaaaaaaf
6CBT(ba
7CM(ba
7OR(ba
7RC(ba
8S(ba
7aptain$(baiiiiia
Ji
8rd(acccc
:s(aaaaaf
7ityData(baa
7reature(ab
9do(ba
;Ico(ba
6DDFT(ba
7igitalAsset$(aacccc
8l(c
7ummyPlayer(deab
6EVN(ba
7mployee(biik
6FAP(ba
7BL(ba
6GLX(ba
7MT(ba
7UNS(ba
7ameIco(ba
6HOLY(ba
7ash(ec
7eld(ba
6ICE(ba
7NDI(ba
7ssue(aaab
6KDT(ba
7RM(ba
7itty$(bai
6LCD(ba
7OK(ba
7PT(ba
7RP(ba
7UNETS(baa
7and(ab
7udum$s(ba
6MND(ba
7USC(ba
6Nertia(ba
8wAccount
9Draw(a
6OOG(ba
7ffer(e
6PCC(ba
7HX(ba
7ayroll(b
7reSale(ba
8oposal(ccccccii
Bicccii
9xyWithControllerAndRecovery(bgaa
6RCN(ba
7ZM(ba
6SEEDS(ba
7TR(ba
7WP(ba
7ale(aaalb
:Avg^(aaaalb
7pecialPlayer(deeaab
7wap(aafb
6TIX(ba
7UBE(ba
7icket(beee
7oken
;(ba
=ek
;ByAtes(bac
;ToMarket(ba
=Opera~(ba
=Tax(ba
>eam(ba
;s
6UKGEvent(ba
7pgradeCards(aaaaaa
Ia
6WEE(ba
7TE(ba
7olk(ba
6XPA(ba
6d(abc
8b
9a
:a
:eac
9b
:aac
;fac
:b
:j
9db
8d
7Accessory(l
8ngel(l
7Ballot(baad
8lock(aaabdddd
7CAT(ba
7Debt(ab
7EDU(ba
7IAM(ba
8RC(ba
7Loan(abb
7MTP(ba
7NIMFA(ba
7Pet(l
7$
<(ba
7User(d
7VUP(ba
7YUPIE(ba
5ion(acb
9ba
8&
8FailedEvent(bac
9eeChangedEvent(a
8Rate
8@
5or
7WithdrawAll
3ditBIT
6IDENTITY(b
6MC
6ed(baa
6ors(b
4o(bbaa
2iptohubcoin
2ossWhitehatWithdraw(ab
3wd
5FundClosed(a
5Sale
9(ba
9Changed(b
9Finished(bc
Bc
9$Purchase(bbaa
>Soldout
9_AssignOwnership(b
:Change_Receive|(b
:Finalize
:Halt
:ModifyEndDate(a
:Resume
5fundFinalized(a
9ing
5sale
9(aa
:b<PricingStrategy>baaa
;a
<a
;b
<aaa
<baaa
=baaa
9!
9Changed(bb
:lose
>(af
>d(a
@b
@f
:ontract
>ibu~(baa
>oller(<ISmart$>abbd
Db<DutchAuc~>a
9Enabled
;dChanged(aa
<ed(a
>Successfuly(aa
:xtended(a
9Finalized
<ished
A(a
Ca
9HardCapReached(a
9MintFinished
9Paused
9Refund
9SoftCapReached(a
:tageStarted(aaaaa
<rted(a
Baaa
Ab
<te
=us(f
9$(cca
Ba
Cf
2ypted_RPS
6loERC20!
5oCopy$
6GO$
6HarborExchange
7ill
7ole$
6Kitties
6Movies$
6Roulette
4viserICO(ga
3stalDoubler
1st
1ubes(a
2ltureTravelFounda~Addr
2ra~Rights;red(bb
3rency
6tARXSupplyInWei
8irdropped
7Coin(b
;^
7DevFee
8istribPublicSupply_
7EntityState
7Game
;Id
8oldPercentIncrease
<rice
7ICOpublicSupply
8ceDelta
:^
7Mined
7^
7Rate
8evision
7StageUpdated(a
:te
;us
=(e
7TLSNProof(bc
8ime
8okenOwner
7_balance
7proposal
7task
2stomerService(b
0D
1AC&
2ICOCap
3LY_FUNDS_RELEASE
6LIMIT
6PURCHASE_LIMIT
2NSSold
2O
3Polska$ICOregula~s
3paidOut(b
3rewardAccount
2TE_01_JUN_2018
531_DEC_2018
?9
>20
?1
?2
5ICO_END
9START
5LIMIT
5OPEN_ON_FLOOR
5PRESALE_END
=START
5TOKENS_UNLOCKED
3$(b
2Y
3S
4ECONDS
4_28
531
3_LENGTH
2ppReady
1CAsset(b
7Backend(dd
2NForGas
1EADLINE
3LERWIN
2BATE_PERIOD_MINUTES
3UG_MODE
2CIMALCOUNT
7FACTOR
7S
8FACTOR
8_MULTIPLIER
7_FACTOR
8INDEX
8MULTIPLIER
8ZEROS
2DUCTION
2EM
2FAULTED_STATUS
7_AUCTION_LENGTH
8CLIFF
9REATION_LIMIT
8DURATION
8GAME_COST
8INITIAL_COST
8LOCK_COST_PER_HOUR
8MAX_LOCK_DURATION
8NAME
8PRESALES_DURATION
8RATE
9EVOCABLE
8TEXT
3ROST_AFTER_MONTHS
8FACTOR
>_TEAMANDADV
8INITIAL_PERCENT
G_OWNER
8MONTHLY_PERCENT
G_OWNER
=S
=_IN_MINUTES
8PERIOD
2LAY
5_PERIOD
3EGATION_HASH_EIP712
3IVERED_FEE_FLAG
3TA
2NOMINATOR
2POSIT(bbaa
7_PERIOD
8WINDOW
2V
3CLASS
8_EXTRACTION_BASE
9FTL_SPEED
9MAX_CARGO
3ELOPER1
92
9S
:FUND
:_BONUS
9_BONUS
:CUT
:FEE_FRAC_BOT
CTOP
>PERCENTAGE
:RESERVED
:SUPPLY
:supply
7MENT_FUND_LOCK_TIMESPAN
<TEAM_CAP
7_CAP
;_PER_ROUND
3P
3_DECIMALS
4FEE
4PORTION
4SUPPLY
4TAX_DIVISOR
5EAM
8_HOLDER
9PORTION
9STAKE
4WALLET
1GBLY
2DIssued
3Talk
2P$Old&
2T_contract
2Z$sSold(ba
9Withdraw(ba
1IALSSPUN
2CE
4_HIGHER
5LOWER
5RANGE
3IMALS
2SBURSEMENT_DURATION
3COUNT_PRIVATE_PRESALE
9STAGE_ONE
?THREE
@WO
9TOKEN_AMOUNT_T1
G2
3PLAY_CLASSIQUE
A_ET_VIDEO
8VIDEO
3TRIBUTE
:D_STATUS
9ION
<_COMMUNITY
=INVESTORS
=TEAM
2V
3IDEND
8_FUND_FRAC_BOT
CTOP
6R
4SOR
7_PRICE
8STAKE
3_DIST
1ML_TOTAL_SUPPLY
2T_TotalSuply
1NARtoGoldXchgRate
1OLLAR_DECIMALS_MULTIPLIER
2MAIN_SEPERATOR
2NATION_WALLET
2WN_etherWin
5totalBets
5winBets
8Rate
1RAIN_DELAY
3W
2C
2OP
2PCrowdsale(bba
3$
2UGS_TO_PRODUCE_1KILO
1SAuth
2PLT_A
3ParametersChanged(b
3Registered(b
9ryReplaced(bb
3Unregistered(b
2T&(<EventInfo><HackerGold>cc
3Multisig
3_ADVISERS
4BOUNTY
4ICO
4RESERVE
5_N_B_PROGRAM
4TEAM
1TCC_ILOW_2
2E
2R
3C
1UNE_BUGGY
3GEON_CREATION_LIMIT
2RATION
8_BEFORE_RESTORE_UNSOLD
9DECREASE_PER_ETHER
9NONUSETEAM
9PER_VESTING
:RESALE
9SALESTAGELAST
BS
9VIPPLACEMENT
2ST_LIMIT
1VIP
4(b
4Backend(bb
1X
2C
3ontracts
2F_$s
1ailyGrowthUpdate(a
5Mint
2oManager
3Ownership;red(bb
3Rules
8ProposalAdded(aaaaaaafb
Oa
Lf
@s
A(a
3Upgraded(b
2ppUpgraded(bbb
2shgold
2tToDtrcDenominator
9Numerator
3a(aa
5ba
4Base
4Changed(dbcc
5ontacts(b
>b
?b
@b
Ab
4Dump
8ed(bcd
4RecordIndexStructs(a
:Structs(d
6gistered(d
4SentToAnother&(bbj
6rvice
4WasRecorded(badac
3eCreate$
4OfBirth
6Death
4_Finished
5Started
4now
3ingCoin$
2yInSecs
3sTillUnlock
1corpProxyCreated(bb
1d(b
2osMitiga~
1eAuthorized(b
2activate
:d&(a
3dCow(ba
4lineExtended(aa
3l(ba
7a
5fe
4CancelRate(a
:a~Reason(abiiac
5ompleted(abiifa
4FullyFunded(a
4RefundReason(abiiac
3uthoriza~(bb
:eServiceProvider(bb
2bitClient(b
;Once(b
6oin$Genesis(b
3t$Created(bba
3ug(a
7bc
6c
7a
7ba
6da
5Hash(j
5Int(m
5Uint(a
5Value(ca
2centrEx(bbbaaa
3imals
4sion(abgh
3reaseCap(a
8PreSaleSupply(a
8SoldSaleSupply(a
9upply(a
2ductABS(aa
6Fees(ba
2ed(a
5b
4Closed
2faultAc~Called
=Delayed
7ReleaseCalled
>Delayed
9verseResolver(<AbstractENS>
7Sweeper(b
3erredPresale$Purchase(bbaa
3ineType(bic
3reeze(bba
4oze(bf
2lVer(b
3ayChanged(a
3egate(ba
8Changed(bb
8dTo(b
7ion;red(bb
4te
6BillModerator(b
6&
6^(a
8oject(c
6UserByAddr(b
<ID(i
3istTitle(a
6ed(a
4ver(bac
:d
9ba
7Info(laaaadld
7ToClaimers(gh
7edBTC(ba
2molishByCredits(aa
3urringFee(ba
2ntacoin!
9$
2ploy(baia
6ed
8(a
:ai
9b
:ac
3osit
7(a
9ba
;c
8b
9a
:a
;fc
:ea
:f
:m
9ba
;a
9da
8e
8ra
7AcceptedEvent(ba
7Bank(ba
8eneficiary(ba
8roker
7Claimed(aba
7ETH
:(a
8vent(ba
7ForDividends(a
8rozen(ba
8und
7Holder
7Interest(abaa
7Limit(a
7MTU(a
7Received(a
@ba
9leased
9turn(ba
=ed(ab
7Slot(b
7ToBankAccount
DFromDifferent!(i
9ken(ba
7Unfrozen(ba
7_double_sum_paid_from_the_balance(a
8referral
7ed(aa
:ba
<a
=a
<j
;baa
<ba
7orLimitChanged(aa
9s(a
;b
:Qty
7s(a
9b
8;red(ba
3recate(b
9d(bcc
2safioStone
3crip~
;Changed(cc
;Finalized
;Int
;Published(cb
3k$(b
3troy
7(a
8b
9a
:b
9ba
8d
7Event(ba
7$(a
7ed(a
;b
:ba
9BlackFunds(ba
:y(ab
<b
5uc~(a
;&
2tails
7Updated(dda
2v!
3ChangeMiningReward(a
3Fee
4orceOpen
3GiveBlockReward
3MiningRewardChanges(a
?PerETHBlock
?;(bba
3Promo~sMarketingSupply
F|
3Reward(ba
3Supply_Released
3_Supply
4$Released
3con2$
3elop
7ment
3iceAddr
6IsActivated(b
8Deactivated(b
6Owner
4dendsSnapshot(ba
3s_Supply
3votePrefundClosed
1gxSwap
1iary(bj
5Log(aj
2ce
4(aaaaaaa
2fficulty
2lu~(ba
2rectFundingProcessed
6Input
6lyDeposited(ba
2sable
7Selling
9rvice(b
9t;able(bf
8uicide
7$Issuance
8ransfer
?s
@(b
3burse(ba
8d(ba
3cipleItem(a
8SaleToBuyer(a
8VendToBidder(a
>Offer(a
>@(a
4ountApplied(aaa
3play
4ute
7(a
7Resolved(d
3solved(ba
3tr(ba
5Finished
5ibFundsReceiver!
7ute(ba
;gh
:Airdrop(ba
AMultiple(ga
:ButtonIncome
:Dividends(a
:NextN$s(a
:$s
:d
;(a
<ba
;SoFar
;$s(ba
9ion
<Mint(ba
<NextPos
<Sale
5ust(b
2v(aa
3est(a
7ba
3idend
8(ba
8Available(a
8Claimed(aba
@baa
9ollectSince(b
8Deposited(baaaa
9istribu~(aa
8Paid(a
=baaa
:yment(aa
9rofit
8Received(ba
;ycled(abaaa
Abaaaa
8;ed(abaaa
8s;ed(ba
9Withdrawal(abaaaa
6r(a
4um
3s
4forall
1oMint(ba
3usicPayout(a
2Roll
6Event(baaffffaaa
2Trade(bbabab
2csign
3umentAdded(aca
Ac
8Registered(ac
8Signed(ab
9tored(aa
8s
2gTest$
2mainChanged(baa
2nQuixote$
3ate
6(aa
7ba
7c
6Added(bba
6Ether
6_some_amount_and_save_your_stake_rewards(a
6d
7(baaa
7Banner
7EthPayout(ba
5ion(b
:a
8Claimed(vLexaa
Azaa
Bexaa
8Deposited4Doubling(ba
BMatching(ba
9oubled(ba
8Event(ba
8Matched(ba
Aba
8Receipt(bcaaad
=ved(ba
Ca
8SentButNotDoubled(ba
BMatched(ba
5orInteract(c
7SetBanner(c
3ors(b
2uble(de
6OrNothingImpl
6Send(bba
6r
2wnPlayerResult(cbaaa
4Stats(aaaa
5uccess(cb
4loadMusic(aba
1ragon^Updated
6sBurned
3in
5(a
5ed(a
3nMe
3w
4Details(a
4Event(aeeeaaaa
4Lottery(ca
4Prepare
;Event(a
4ReadyToPayout(ieeeed
4color(abaa
4er
4ing
7PrintTo!(a
4s(a
2op
4(ba
4Reward
4ped(db
2ugDealer
1st$sIssued(aaaa
1ue@(b
2mpDivs
2ngeonChallenged(abaaaaafaaa
Hfaaa
7RunAlpha
2ra~Altered(a
2tchADecreaseRate(a
6Listed(a
6uc~(baa
>bb
<ToBuy(bbb
>Craft(bbb
1ynamicPyramid
0E
118
14RowEscrow
;U
2$
1ADC
2I_$ERC20(acc
2RLYADOPTERS
5BIRD_PRICE_MULTIPLIER
5_BET_INCENTIVE_COMMISSION
7IRD_SUPPLY
6CONTRIBUTION_DURATION
?OR_STAKE
BVESTING_CLIFF
JPERIOD
6FOUNDERS_CAP
?USD
6INVESTORS_SUPPLY_LIMIT
>_AMOUNT
?WALLET
9_BONUS
1C
2ONOMY_BOOST
=_TRADE
3_SYSTEM_BONUS
;HOLDER
;STAKE
1DColiseum
2U_KYC_BONUS
4PER_ETH_EARLY_PRE_SALE
<PRE_SALE
<SALE
1EM
3|
1FOcallBack(c
1GC
2GS_TO_HATCH_1BANKER
AT
@ULLS
?CHICKEN
@RAB
AOCS
@at
?DINO
@RAGON
@ragon
?FAIRY
ALCON
?HIPSTER
?LOBSTER
?PACIFIST
?SHRIMP
@NAKE
@QUIRREL
?TOAD
@URTLE
2LSold
2REngraved$
1ID$ERC20
2P20ByteCode
3712DOMAIN_TYPEHASH
1LF
2IX!
;Set
4_ADDRESS
1MGwithdraw(a
2ISSION_FOR_BOUNTY
=PRESALE
=SALESTAGE1
F2
F3
F4
F5
F6
F7
FLAST
=TEAM
2PTY_PUBLIC_KEY_ID
6RESOURCE_SET_ID
1ND
3DATE
3ING_TIME
3TIME
3_ADDRESS
5MOUNT
4DATE
5URATION_BETTING_BLOCK
4ICO_TIMESTAMP
4MINTING
4OF_MINT_DATE
4PREICO_TIMESTAMP
7SALE_TIMESTAMP
4SKO1_UNITS
4TIME
8STAMP
8_PRESALE
9SALE
5S
2G
2J_UNIT
2TERED_MASK
3RY_FEE
1OS
3Registra~(c
3_address
1POCH_LENGTH
2XtokenSupply
2ause
6(bc
1QUIPMENT_REWARD_TOKENS_NUMS
AWALLET
1RA_PERIOD
2C20
5!
5Base
6yteCode
5ClassicToOwner(bab
5Rescue(ba
5ToOwner(bab
7ken
:(cce
>a
5address
5transfer(baj
423Received(ba
6$
7ransfer(bbaj
>_enabled
3677;(bbaj
3721!
6&
6_RECEIVED
2W
1SCBDevMultisig
3ROW_TOKENS_PERCENT
7WALLET
2OP!
5ndCompanySet(bb
4LegalWrapperIPFSHash
4Offered(bbii
5pened(b
2Sgenesis
1T(baa
2A$(acc
2CHaddress
3L
3Return(ba
3Survey
3;(bba
3|Created(b
2ERNAL_APPROVAL_VALUE
2H
3(a
3Assets
3Collected
5ntributed
>(b
3Deposir
3EAL_UNIT
4R
5AFFLE
5COINSupply
5DELTA_ADDR
5EMON_PROCESSOR
5FUNDME_FEE
<ONLINE_FEE
5REDSupply
5_ADDRESS
6CAP
6HARD_CAP
6MAX_CONTRIB
A_PRIVATE
BUSA
7IN_CONTRIB
A_PRIVATE
BUSA
6THRESHOLD
4UR
3FINEX_FEE
4ee
4undDeposit
3OfCrySolObjects
3^
3Raised
4eceived
5turn(ba
3;(bba
3USD
6PRICE
3|
9Created(b
3XBT
3_CAP
5LEAR
5RWDTOKEN
4DECIMALS
<_FACTOR
4EUR
4FUND_DEPOSIT
4HARD_CAP
5EROCOIN
4MAX_GOAL
8LIMIT
5IN_GOAL
8LIMIT
4PER_LARE
5RICE
9_USD
4QCO
4RECEIVED_CAP
=MIN
5ate
8_Factor
4SIGN_PREFIX
4TOKEN_ADDRESS
:EXCHANGE_RATIO
6_QST_TOKEN_RATE
7WEI
4USD_EXCHANGE_CENTS
ARATE_IN_CENTS
8rate
4VTA
4address
4per_BRA
4withdraw(a
3cap
4ollected
3fund
3invested
3multiplier
3toZCOrate
6Weirate
2OKEN2
2P$
1UR(a
3Value
3WEI
2npause
8(bc
1VEN
1XA
2CHANGE
8_COMMISSION
9RATE
=_DECIMALS
2PECTED
8_TOTAL_SUPPLY
4RTS_POOL_ADDR
=TOKENS
3LOSION_DENOMINATOR
3_18
2TERNAL_QUERY_GAS_LIMIT
3_COMPANY_ONE
<STAKE_ONE
BTHREE
CWO
<THREE
=WO
1_Auc~Finished(babaa
9Started(baa
2Bid(ba
1arlyAdopters!
>mount
5BackerDeposit(ba
6ird(f
9sFinalized(a
5ContribReceipt(bad
5End@Changed(a
6xchangeRateChanged(a
5PurchaseAmended(a
=Invalidated(a
5Success
3nedGNS(ba
4ingsWithdrawal(aba
3thMedz
1conomyRebated(ccccc
7Taxed(ccccc
3systemFund
9Part
1dgarRichardWunsche
3eless$
2itMode
4Tile(aaccca
4tedEntry(ba
1ffectAdded(ah
=p
1ggTotal(e
3sPurchased(bai
4Redeemed(ba
1ightteen$
1koBeerCoin
1lcoin
6Db(b
2ectricQueue
=(b
7um
3mentBought(aaabaaa
7;red(aaabaaa
7Upgraded(aaabaaa
3venEleven$
2igibility_Group_1(bba
B2(bba
B3(bba
B4(bba
B5(bba
3minate(ba
9d(b
3xer
1mailSent(bacc
;cc
5er
2ergency
9=Reset(a
9FundingReleaseApproved
9Pause
9Stop
=Activated
=Sell(f
9UnPause
9WithdrawalFailed(b
CProposed
CSucceeded(ba
2ission(a
:aa
9ba
;aaaa
9ea
3t(a
4AccountChartDetails(baaa
4EntityIds(g
4Transac~Details(baaaccc
?Ids(h
4_OffchainPaymentFlag(bbff
4ter
2ojicoin
2ployeeMigrated(bbaa
8Op~sExercised(bbif
8SignedToESOP(b
3tiedTo|(b
1nable
6Disable$Proxy
6Refund
6Selling(a
8rvice(b
6$Minting(f
7rade(f
9nsfer
6d
7(a
2crypt(a
7oTel$
2d
3(baa
4c
4f
31
40
32
33
34
35
36
37
38
39
3Changed(aab
4laim
3Date
7Updated(aa
3Event
8(f
3Game(bea
3Lottery
3Minting(a
3OfPayments(ba
5fer(f
3PreICO(a
6Sale
3Ques~
3RateChange(a
4efund
4ound(a
3Sale
4tage
3@
7Changed(a
7Updated
3_Promo~
3dateICO
7Presale
3ed(a
6ba
3sAtChanged(a
2graved(bccd
:d
2listed(b
2oughClaims(a
2ter
5(aafb
5Code(a
:i
5Swap(aafb
3ityStates(d
3ropy
7TxDetails(bca
4yAdded(daa
5ExistAlready(da
1osHaters(a
1play
1rr(a
4c
3Msg(bc
3or(a
7a
6ba
7c
6c
7c
6d
6e
7bb
5Log(bc
5Message(c
6sg(c
5Report(baa
7turningEth(ba
5SendingETH(ba
1scapable(bb
5eCalled(a
6HatchCalled(a
@rChanged(b
3row
6(baafb
8b
6&(bbbbaaaa
6Escala~(aa
6Foundry
2tLiquida~Cap
3atePurchased(aba
3imatedICOBonus?
1tch(d
2h
32USD(a
7_power18(a
4preNSP(a
3Bank
3CapInWei
4entsUpdated(a
3DailyLimitChange(a
4ev
3Factory
4und;(a
3Get
3LongExercised(vLexaa
Bza
Da
Cexaa
3MinContribu~Updated(aa
4ultiplier
3One
3Palace
4er$
4yramid
3RateChange(a
4eceived(ba
5fundReceived(ba
9ed(ba
3ToAFW(a
5CentsUpdated(a
5Owner(ba
5Usd
8Changed(baa
5ken
4ranchePricing(U
3VenturePlugin
:s
;3
;4
;Final
3_Collected
3ash
6(F
3erAds(bbb
5=Of(b
6et(baa
5Delta
:(baa
<bbaaa
:Approve$(ba
:Deposit(a
A$(ba
:$=(b
:Withdraw(a
B$(ba
6ogIndexToApproved(a
?Owner(a
5Game
5Ico(baa
6d
6n(ba
5LiteSupply
6overs
5Nex(acce
5Pluscoin
6riceUpdate(a
5Receival(ba
;ed(aba
>ba
=FromRelay(bab
7deemAccepted(ba
7served(a
5Sent(ba
6phere
5TakeAfterSoftcap
6opDog
6ransfer
=(bba
5USD^Factor
5Withdraw(ab
=n(a
5Xeum
5amid
92
6ndom
:Proxy
5emojis
6umDice
8Pot
8RateUpdated(aa
9oulette
5iza~
<Utils
A2
5netCash!
<Website
5oll
8$
6pt(acaadb<int[]>
5prisesLLC
5rateUpd(aa
5sRaised
5tokenDelta(bbbaaa
7teAdmin!
3perPoe
3raffle
3stick
2mPerBtc
1urocoinB
1v(cba
2GroupChanged(bee
2Loginfo(cc
4veItemAdded(dbaacc
2Migra~(baa
2New^(aa
2$Add(aa
7Rm(aaa
2acuated(b
2entAddAdmin(bb
8Manager(bb
8ToBattle(bl
8ressChange(bba
6uc~(baaaaa
>iaaaa
5Bankrupt
7ttle(blll
;Over
6id(ab
9bi
9i
6onusPercentChanged(aa
6uyCar(bii
8Ship(bii
>kl
8Tank(baaa
>ii
5CancelAuc~(ab
Ci
7shOut(ba
<Tank(ba
6entsPerEtherChanged(aa
=$Changed(aa
6lear
6reateAccessory(ba
<ngel(bl
;Pet(ba
;Risk(bnaa
;Static(bnaa
5EmergencyContinue
>Stop
5JoinedBattle(ba
5LevelUp(iii
6ogged(ceab
8in(bc
6uckyNumberRequested(baae
Nb
Bvealed(baa
Lb
@Updated(aae
5Notarise(bjj
5Product(iciiaaaa
Aiiiaaa
<EndSale(i
5QuitBattle(ba
5RandomLedgerRequested(baaeb
Cvealed(baaab
Mb
6edeemRisk(bnaa
;Static(bnaa
7moveAdmin(bb
;FromBattle(bl
;Manager(bb
5Set&(bcb
6uccessfulTraining(lll
5;(bbi
=Ac~(bbie
=WasReset
5UpdateWasReset
7grade(bb
<Car(biee
<Ship(bie
<Tank(bae
Bie
5WinReward(ba
7thdraw(ba
2tUnlock(ba
1xcalibur
3hange(b
:aca
:b
8Rate
<(a
<Changed(aa
8$Pushed(ba
8Whitelist(bb
8d(ba
8s
2ecLog(bdadda
4uteOp~s(bace
7Trade(bbbaa
7d(c
:a
6ion(a
:cccccc
:d
9Error(c
9Failure(a
6orChanged(b
3rciseEnd@
2it
2oMinium$(b
2pand
6andHarvest(a
3ended
3ire(bb
6d
7ProposalIds(a
5ingMarket(a
3ortMaster
4sureClosed(dbaa
9ollected(dba
8Opened(dbaall
8Settled(dba
3ress_Satisfac~_MediatedTransac~(a
2t$Purchase(bba
Daa
3end(aa
6Life
6ed(a
5sionCalled(<bytes32[8]>
4rnalAllowd&Gen0(a
I1(a
8Sale(baaa
=ecbaa
>dbaa
<Sha3(edbaa
3raBal$
5FinalizeAgent(<Crowdsale$><Crowdsale>aba
5Mint
5ct(ba
7Deposit@(b
7EtherLeftOn&(b
7ed$s(bba
0F
1ABAcompany$sPercent
A|
2CTOR
6_1
80
81
72
73
74
75
76
77
78
79
7PRESALE
2ILED_STATUS
4_FLAG
2PFounder
:Fund
4und
7Deposit1
>2
>3
>4
>5
2RT
1BLFounderFund
4und
1CC
2oin$
1DC(bc
1EE
3D1
42
3_ADDRESS
6MIN
4CHARGER_DENOMINATOR
4DENOMINATOR
6V
4MIN
4NUMERATOR
4OWNER
4PERCENT
7MILLE
4RANGE
4SELECT_LRC
;MARGIN_SPLIT
=X_VALUE
5ILO
1IFTY_THOUSANDS_LIMIT
2NAL_AML_DATE
<YS
6ROUND_RATE
4NCE_CAP
;_PER_ROUND
3CO
3LAB_PRESALE
3TRUX_RESERVE
?_FTX
2RSTSALE_BASE_PRICE_IN_WEI
:TOKENCAP
5_AUCTIONS_MINIMUM_RAISE
6DAY_END
6PHASE_MAX_SPAN
6ROUND
;_RATE
6TIER_DISCOUNT
6UNLOCK
7SER_CUT
6VOLUME_BONUS
=EXTRA_BONUS
6WITHDRAW_RATE
2VE_YEAR_KEEPING
2XEDREWARD_MM
5_PRESALE_USD_ETHER_PRICE
6RATE
1LC_address
2IGHT_NUMBER
3PPINESS
:ROUNDBONUS
2KDForGas
2UX
1OMO
4ed
2RCEfreezeAccount(ab
3_FOUNDER
4ICO
4SALE
2UNDATION_ADDRESS
;CAPPED_VALUE
;HOLDER
;PERCENT
<OOL_ADDR
D_VEST
@TOKENS
F_VESTED
;RESERVE
;SHARE
<TAKE
;TOKENS
;WALLET
5ER1
8_STAKE
72
8_STAKE
7S
8_CAP
9LOCK_DATES(a
>PERIOD
>START_TIME
9POOL_ADDR
9REWARD
9SHARE
:UPPLY
9TOKENS
?_PERCENT
@VESTED_1
G2
9VESTING_CLIFF
ADURATION
7_ADDRESS1
?2
?3
9MOUNT
8EXCHANGE_RATE
ASHARE
8FUND_1
=2
=3
8ONE
8STAKE
8TWO
8WALET
;LET
5ING_TEAM
3RTH_RATE
7TIER_DISCOUNT
<SALE_START_TIME
7USER_CUT
4_YEAR_KEEPING
1P_SCALE
1RACTION_ETHER
2EEREWARDPPOINT
4ZE_END
7PERIOD
7TIME
4_SUPPLY
2OZEN_TOKENS
2ST_CRWDSALE_RATIO
1SNAS!
2T
1TST
2TIssued(bbaa
2_OPERATIONAL_FUND
3TEAM_FUND
4OKEN_SALE_CAP
1ULL_TOKEN_AMOUNT
;WALLET
2NDING_END_TIMESTAMP
9TH_HARD_CAP
8GOAL
8PERIOD
9RESALE_MAX
8SALE_BONUS(a
=DURATION(a
9TART_TIMESTAMP
4S_WALLET
4_ADDR
5FRAC_BOT
:TOP
5GATHERING_TIME
5SUPPLY
2TURE_DEVELOPMENT_FUND
CPOOL
8ISTRIBUTE_LIMIT
7ME_ADDRESS
:TOKENS
7WALLET
1WDaddrETH
1XRATE
1ace$
4|$
3tomIssued
6Talk
5ry(bdb
7ChangedEvent(b
2ilSafeActivated(f
4ed(ababbabaa
6Marking(ddam
6Send(ba
6ToClaim(ba
7ransfer(ba
6Vote(bc
2keOwner(b
2llenLeaders
2rt(c
2stRealisticPyramid
2ther$
2ucet
1ederatedOracleBytes8(ee
2e
3Addr1
72
4pplied(cba
3Calculated(aaaaa
4hanged(a
3OnAlloca~(aa
3Paid(bba
4rovider
3Rate
3Setup(bba
3Updated(aa
;bbaa
3dCreated(ac
4backUpdated(aed
3s
4(a
4Calculated(aa
5onverted(aaa
4Payout(a
4Received(ba
2males(b
2uzing$
1iCoinFundDeposit
2atRaisedUpdated(ba
2bokenCreated(eba
7Used(eba
2dget(bbaaaa
2ght(aaff
5_Results(abbnniaiae
5erCreated(baa
7Updated(a
2leData
8Int
4Hash
8Int
4Name
8Int
4Storage
3iate_Changed(b
3lBuyOrder(bbaaaaa
4Order(aa
;ba
4SellOrder(bbaaaaa
4ed(babbabaa
2n
3alConfirma~(bd
5$s(a
5iseSale(bba
8d(ba
9Crowdsale(aa
6ze
8(ba
8Crowdsale
8Sale
<(b
8d
9(a
;a
:ba
<a
:f
9Tier(aa
3dID(b
3ish
6Ballot(a
6Competi~(i
AEvent(i
6Ico
9(bb
<bb
6Sale
6$Sale
;sale
6ed(aeeeee
8Exporting
2psData(rbj
4Notary
4Registra~(rb
4;(rbb
2rstBlood$(bbaa
5&
5LevelCost
5PaySend(ab
6eriodCapUpdated(aa
;EndDateUpdated(aa
5_pay_bountymanager
:clientmanager
5sale
2srtSupply(ba
2xProfit
3Sale(a
3edSupply$
1lag!(b
4Uint(a
4ged(bf
3mes
3tPricing(a
2ippedCoin(bam
1okitol
2llow(aba
7ddf
2o(bdb
3d$EmissionEvent(bbafa
5ransferEvent(bbabaa
4WithdrawEvent(bbfaaa
4iecoin
3sball
2rSale
3_admin
3ceCoin;(bba
5SendHelper(b
3egroundPaymentResult(faba
4ignBuy(bac
3ged(a
4ived(bba
3kChecker(ad
3warded(baj
;ba
8r
9Deposited(baj
2undWinner(ba
5a~
:Addr_
>ess
AFreeze@
:Requested(bbd
:Supply
:;(baa
Bred(bb
5er
71
72
73
7Alloca~$s
7FeeInPercent
7SwitchRequestEvent(b
=edEvent(b
7Unlock(ba
7s
8AndPartners$sIssued(baba
8Fund
5s;d(ba
4tainOfWealth
3rth!=
1ree$Added(ba
9sIssued(bba
4ZombieCount
4_Ether_A_Day_Funds_Return
5vote_for_candidate_B
4ze
6(b
8a
8baac
6Account(b
?f
7ddress
6=s(b
6Product(a
6$;s(bf
;s
<Release@
7ransfer
>s(bf
6Upgrade
6d(bla
7Cash
5ing(baa
2icacoin
2ozen
6(ba
8f
7f
6Account_event(ba
7ddress(b
6&(f
6Fu(bf
8nd(bf
:s(b
=a
>aaaa
=bc
=f
>a
6Media$Funds(bbf
6Profit(bf
6Status(bf
6$Event(ba
1sTKAuthorityChanged(b
1ucks$
2eled
4ingToDate(a
2lfillmentAccepted(aba
;Updated(aa
2nGame
3d
4(a
5ba
7a
6bbbb
4Account
5ddress
4Closed
5ontract
4ICO(a
4Minting(ba
4Return(baf
4;(a
>dbb
=ba
?a
@aa
@f
?b
?f
@a
>ba
>ca
<ed(ba
4Updated(a
<b
4Value(aaaa
4Withdrawal(ba
Af
<ed(a
4_&
4able$
5riaBonusFund
8$
=Buy(b
4ed?(a
4ing(ba
7Accepted(baa
8sset!
7CapSet(a
8losed
8ompleted(aa
7Entity
7Fueled(aa
7ManagerEntity
7ProposalAdded(aafabaaa
7Rules
<(a
<Set(baaa
Da
7StageNum
7Withdrawn(ba
7_Setting_cashback_before_start_wait_dura~
Idura~
Itime_end
Nstart
@funding_time_end
Mstart
4raiser(bbaaa
4s(b
5Added(a
;ba
5Burned(a
5Claimed(bac
5Deposited(ba
Aaaa
6rained(a
5Got(ba
5Loaded(ab
5Migrated(b
6oved(a
5Received(ba
@aaa
8overed
7funded(a
7leased(a
7turned(ba
5;
=red(ba
@ToMultisig(ba
5|
6ithdrawal(ba
=n(ab
?ba
>And$Stareted(b
>Event(bba
0G2UFundDeposit
3fund
1ACFund
2MEPAUSED
4SPLAYED
4_COST
5DURATION
5END
5POOL_INIT
5STARTED
:_TIME
6UPPLY
5TYPE_DICE
2S_LIMIT
9_IN_WEI
4PRICE
9_LIMIT
4REFUND
6QUIREMENT
1BP(a
3Value
3proxy
2T!
2ank(a
1CCH$
1DCAcc01
72
73
74
75
3Number1
92
93
94
95
2POracle
1EE100
2N0_AUCTION_DURATION
5CREATION_LIMIT
5MINIMAL_PRICE
5NO
5STARTING_PRICE
5TOTAL_COUNT
3EOS
4SIS
3SIS_TOTAL_COUNT
3_0_LIMIT
2T_METADATA
1ICT
4=
2THUB_LINK
1MR_TOKEN_SALE_CAP
1NT
3Alloca~(b
1OAL
4_REACHED_CRITERION
2LD_AMOUNT_NDC
<SKL
<TPT
<XPER
5TO_COLLECT_1SWORD
2OD_ERC20
3LA_UNIT
2V
3ERNANCE
1RANT_BATCH_SIZE
3PE_SECS_TO_GROW_VINE
2ForGas
2OWTH_BUMP
1SI
1TO
1UP$(ba
1VPE_address
1XCSentToETH
2VCNo$(ab
4Replay(ab
4SentByEther(aba
:$(aba
1ainsCalculated(baaaa
2mble
6rPer!(b
7s_Until_Jackpot
3eBidAccepted(baaajf
4Closed(a
5reated(bbaad
<dbcckl
=cckl
4Data(booB
5etails(a
4Ended(aaa
;baaaee
>ee
:bbaae
?e
7s
5vent(abe
4Finished(aacab
=b
4Joined(bbaaea
4Loose(baeeeaa
4Mining(ba
4NeedsTick(aba
5umber
4OfThrones
5pened(a
5ver
8(c
4Played(dd
5ool!
5rogress(aaa
4Refunded(a
>aa
6gistry
5oll(baeea
4Scored(dmm
>a
5tart(aa
9ed(a
7tus(eeee
:Update(f
4Verified(d
4Win(baeeeaa
5on(ab
8ba
4_balance_in_Ethers
2ngnam$e(b
2oguans(b
2s(a
3Buy
3Log(caa
3^
3Sell
2tewayInterface!
7StatusUpdated(f
2ve(abbaa
5b
2yPersonalAds
1eneBlockChainUserIDs(b
4ralPurposeProfitSplitter
7Update(aa
@a
6te(bbaa
8dNumber(a
7ionSupply
4sis!Sale(bbaa
>;(bba
7Buy^(b
?History(ba
7Caller!
9tsAdded(<bytes5[16]>
7InitialSupply(b
7RewardPerBlock(b
7SalesCount
<^Count
7;sCount
2t
3Access(b
6ountIsFrozenByDateCount
BCount
<NotFrozenCount
EForReturnCount
4ddrCallQty(b
5min!
4llReferral!es
4ndReduceFeesByFrac~(a
4ssetTypeAverageSale^(a
6igned!(a
4uc~(i
3Bal
6ance
:(b
:OwnerFor;(a
5nk
7Account=
>Number
7=
4est$Count(e
7|!(e
5t(a
8af
4ind$sAccountEvent(bc
4oosterCount
:Data
>(a
5unty(ba
4uildingData(a
@ba
;Param(a
5y^
3CardInfo(e
7Number(ee
5tegoryNumber(s
;Value(e
4ert(i
4hequeInfo(c
=ByHash(a
4ityData
;(b
7Name(b
7Snapshot
?(ba
4lick^
6entCategory(b
4ommission
6peti~Funds(i
>Info(i
>Results(if
5nstructCost(aa
6tractAddr
8ibu~Info(kk
5st(aaa
5untryCode(k
4reditsPerEth
4urrentICOCycle
:Numbers
:Sale^(a
;tate
:TypeDura~(a
>SaleCount(a
BItem(a
B^(a
?tart@(a
3Dappinfo(c
5taPoint(aafc
7Request(afca
>Length(a
4eadline
5molishCost(aa
5script(c
5tail(b
4islikeCount
5v
6idends(ba
6s(b
3ETH(ba
4nd
4th=
=(b
6Shop
:(b
6er
8^
8Spent(b
8eum(ba
4xpire@
3FileLoca~(d
4reeCnt
7Ether
7$s
7bie
3GameIndexesToProcess
7Type(b
7status
4ift
7(j
4lobalProduc~
3Hash(a
8j
4oldersCount
3ICOData(a
4ndex(aaa
5itData
5ventory(ba
<Count(b
7sted?
9or!
4sPauded
8sed
4temInfo(a
7s(b
3JackpotMin
:s
3LandData
5stBetUser(b
7Msg
4engthofList
4iasonName(aaa
9URL(aaa
5keCount
4oanIdFromPortfolio(aa
8nfo(af
7sLenght(f
3Main!
7Investor
7Sale
5tchLength
5xBuyIn
6Ether
6PrestigeLevel
6StageEth?
6imumBet
=_Ether
>ether
4inerAt(a
8Data(b
8ICOData(ba
8RigsCount(ba
8UnclaimedICOShare(b
6imumBet
=_Ether
>ether
4oney
8(ab
4yAcorn
5Bet
5Earning
6gg
5InvestFee
;ment=
5Prod
5Snail
3NextWithFunds(aa
4ow
4umber(ba
9OfRigs
9sFromHash(d
3Owner
8(c
8ship(c
>a
<By!(cb
3PVPData(b
4art(da
4ermissionsList(b
4ie
4layer(a
9At(a
9Cards(b
9DataAt(b
:etails(b
9Round(b
9_FromAddr(be
>ID(ie
4otInfo
4reSale
6stigeInfo(a
5ice
8(e
8OfRigs(aaa
:Troops(aaa
6vateSale
6ze
8(a
8Fund
5oduc~PerSecond(b
6fitFunds
3QueryInfo(d
6ueLength
3Rank(k
4eferralDataOf!(b
;Info
9edAt(a
;Count
5serve?(b
4igData(a
;e
4ocket(i
9Stock(k
3Sale
7Info(e
;_Airdrop(e
<Presale(e
4ellOrderDetails(b
7^
4hipsByOwner(b
4ign(cb
7Version(cba
4mallCotractIndex(b
4takingNow
6ts
7us(a
4ummFee(a
7Reward(a
5spend
3@
7(e
4oc^
5kenData(a
8^Cents
5tal
8Clicks
8MinerCount
8Players
9ot
8RigCount
3URL(ba
4npaid(a
4pgradeCost(aa
4ser(c
7Bets(b
8itFlag(b
7Expire(b
9traData1(b
@2(b
@3(b
7ID(b
8dBy!(b
7NickName(b
7PELO?(b
;Bonus(b
7Rank(eb
7SafesLength(b
3VerifyCodes(c
6sion
3Whitelist(a
4ildCardOwner(a
5nCards
6nerAt(a
9s
7ing!
5thdraw=(b
;alFunds(b
4orldData
8Snapshot
3crowdsale&
3safe(a
3wsic(a
1ift(abb
5b
6a
4Claimed(baa
4Generated(bbbaac
4Metadata(a
4PoolContribu~(ba
4Send(abbdcqe<bytes24>kka
4sOfOwner(b
2gs$
2tHubBounty
2veBlockReward
4ReferralRocket(kb
6ward(ba
4UpTheDough(b
4n
5(ab
1lobalAdmin
;Changed(b
7mountCapHard
?Soft
6OperatorChanged(bb
6;sLocked(f
?Unlocked(f
1nosis
6Issued
6Talk
7oken(bgU
1oBlockSupply
2alHitWithdrawl
4MaximumReached(baa
5inimumReached(baa
4Reached
;(a
=a
<ba
>f
2d
3s
2ldAlloca~(aa
5mountMelted
4Bought(abdccccc
@dccf
4Owner
4Whitelist(bf
3emSupply
2od_Bye_World
4luckcoin
2t$s(baa
2vernable
6ment
1rabUnallocatedValue
3ceFund
3nt(bf
5Added(ba
5Deleted(ba
5Revoked(ba
5$(bac
5Updated(baa
5edOrganiza~(f
3phenePowerCrowdsale
2eedPit
4ter(c
2idMember(cafbb
3mReaper!
2oupClosed(ia
6reated(ia
5Multiplier(aa
5_1
62
63
64
65
3wthPool_Released
;Supply
1uaranteed!(ba
4daProva(b
<cccc
6Registro(c
?d
5ianRune(a
8SaleToBuyer(a
8VendToBidder(a
>Offer(a
>@(a
2bbermentOverthrown(bb
2ess(a
6bamma
6c
5es(a
0H4D!
1ALF_TIME
3T
3VING_DELAY
2RDCAP
7PED_SUPPLY
7_ETH_LIMIT
8TOKENS_ICO
?PRE_ICO
4_CAP
8_EUR
9IN_TOKEN
AS
9T
:OKENS
9USD
3T_NETWORK_ID
2SHPERETH
4_RATE_MULTIPLIER
5SCHEME
2TCHBACK
5ING_COST
2VtoUSD(a
2YATO
6_EXTRACTION_BASE
7FTL_SPEED
7MAX_CARGO
1EAD
2Coin(b
2IGHT
1GT
3_Reserve
1IDDEN_CAP
2GH
4ER_PRICE_RESET_PERCENTAGE
4_RANGE_RATE
1ODLER!(b
4Registra~
4address
4rSellWin(a
6oldWin(baaa
2LDING_START
4ersList(a
2NORABLE_LOSS_BONUS
2ST_CUT
5SHARE
2UR
4LY_VALUE_DECAY_RATE
3SEEDGE_inTHOUSANDTHPERCENTS
5_EDGE
:_DIVISOR
2VERCRAFT_TYPE
1SShopForBiding(a
9Sale(a
6^(a
6SaleFee
2hoeShopO(a
5_Limit
1T
2Supply
2X
1UT34_RETAIN
6VEST_ADDR
6WALLET
1VAL
2ZSupply
1WGC$
1XTtoken
1YIP
1ackDao
5ivs
4erGold(b
6SpaceBarneys$
4sig(a
2lo
3t
4Status(f
4$AllOpera~
4ed
6(a
7f
3vingInfo
2ndWinsView(b
2ppyBirthday(ba
2raKiri
3dCap
7Ethereum
7Reached
>(a
?ba
4_Cap
4cap
7GoalReached(aaaa
7Reached
4ware|
2sBooster(b
<a
3Voted(ab
3hAdded(bca
4Invalidated(dcaa
4Registered(dbaa
6leased(da
6moved(bc
4Solved(bcd
4$
5ypeAdded(e
4nodeTestCoin
2tchEggs
2vvenGoldSupply
2walaKickoff@
1eirChanged(bb
4OwnershipClaimed(bb
2liumNetwork!
3loWorld&
3pCoin
4Me$s(a
4erPor~
2roTrained(abaaaaafa
Bfa
1ighGas?
4JackpotHolder
4estBidChanged(ba
:Increased(ba
4lander
2story
7(a
7Updated(ch
1odl(ba
4Created(abaa
4Eth(a
8ba
4Released(f
4Withdrawn(aba
4ing(bba
8f
2ld(ba
6baa
8e
4Changed(baa
4er
6(b
8a
6Added(baaa
9ress(a
6Vacated(b
6s(a
8b
3yBible(kkkk
2nestDice
6gamble
6isnetworkICObalances
Bregula~s
2tlist
2urglass
3se(d
5Cards(a
5EdgeUpdate(a
5FeeUpdate(a
5Managed
2w_to_interact_with_Smartcontract
1uman
5Standard$
5iqICO(b
<b
=b
7$(b
2ngrify
0IAD!
3ForGas
2MRefundedForWei(ba
3_PER_ETH_BASE_RATE
<PRE_SALE_RATE
1BST
1CDCap
4laims(b
3Start@
5op@
4upply
2O
3(baa
4ccea
31Period
32Period
33Period
34Period
3Active
4ddress
4mount
3BeginsAt
4lacklisted(b
4onusPercent1week
?2week
?3week
3Cap
4hanged(b
4losed
4ompleted(a
5ntract
3Deposit&(<ICOCustomerDeposit>
3Enabled
5dDate
6@
6ed
8Successfuly(aa
Fc
3FactoryVersion
5iled(aa
<c
7s
4inished
3Hardcap
3Investment(baae
9ors?
3MinTresholdReached(a
Gc
3NIQ_SALE_CLOSING_TIME
<OPENING_TIME
7TOKENS_NEEDED_PER_INVESTED_WEI
4otCompleted
3Opened
3PERIOD
4RICE
4art
5used
4rice
4urchased(a
3Raised
5tio
4eserveLockUp
:Supply
:Withdrawn
6umed(aaaa
?a
5ward
4ounds(a
4unning
3SALE_BONUSJOINTTOKENS
8JOINTTOKENS
4TART
4aleEnd
8xtended(a
7Start
7Type
4plit
4tagePeriod(a
6rt
8BlockChanged(a
8Date
8@
<Changed(a
8ed(a
<a
=aa
?a
<c
6te(f
7us
4uccess
5pply
5spended
4wapRate
3Terminated
4imer
4okenDelivery(ba
8HardCap
8sInvested(ba
3|
4eiRaised
4hitelisted(b
3_ADDR
8ESS
5llowPayment
4BASE_PRICE_IN_WEI
5ONUS
91_RATE
;SLGN_LESS
92_RATE
;SLGN_LESS
9_RATE
:TIME_1
?2
?3
4CAP
71
72
73
74
5ONTRIBUTOR_TYPE
5ontract
4DAYS
5URATION
4ENABLERS_CAP
6D
7_DATE
8TIME
5OS_AIRDROP
5nded
4FINISH
5inished
4GOAL
4HARDCAP
4LEVEL_1
:2
:3
:4
:5
5ive
4MAX_CAP
5IN_CAP
8DEPOSIT
4ON
6E
4PERCENTAGE_1
?2
?3
?4
?5
7IOD
5HASE1_AMOUNT
;BONUS_PERCENTAGE
;LIMIT
;PERIOD
92_AMOUNT
;BONUS_PERCENTAGE
;LIMIT
;PERIOD
93_AMOUNT
;BONUS_PERCENTAGE
;LIMIT
;PERIOD
5OOL
5RE_SALE
6ICE
91
92
93
94
95
96
97
98
6OMO_REWARDS
4RATE
81
82
83
84
4SHARE
5INCE
5TART
91
92
93
94
9_DATE
:TIME
5UPPLY
5upply
4TEAM
5IER_FIRST
9LAST
9TWO
6LL
5OKENCAP
9S
:_AMOUNT
;PERCENT
9_CAP
:SOFT_CAP
;UPPLY_LIMIT
5RIGGER
5WO
5ier
5okenValue
4WALLET
4setParameters(baaaaba
5tart
9_future(a
4token_supplyCap
3active
4ddress"

end Listing
end EvmFlow
