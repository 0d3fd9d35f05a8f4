/-!
# Known signatures, part C
-/

namespace EvmFlow
namespace Listing

/-- Known signatures from `Send` to `addToSellList`. -/
def partC : String :=
"0Send(gh
41Get2
4AllFunds
7Money
4Badge(bba
5id
4CashForHardwareReturn
4Dividend(ba
?a
4ERC20ToAsset(b
;Dex(b
5TC(b
6H(b
5mail(cc
5th
7Off
8n
7erToAsset(a
;Board(a
;Dex(a
;Fund(a
4Fart(c
4LCR$s(ba
4Message(acb
4Owner
4PreReserved1
?2
?3
?4
?5
4TaxFee(bbba
5okens
:(a
:ToFounders(aaa
4|Fees(bbb
4_MediatedTransac~(ba
5TrustlessTransac~(ba
4ingBounty(da
@b
3iumSupply
3t(baa
7cc
7j
6ba
7m
4?ToNeighbours(ab
<Owner(ab
4DeveloperFee(aa
4FeeToPlatform(a
4PrizeToWinner(baaaaa
4To(b
6&or(aaba
Bba
6kens(baaa
4Value(a
2o(ba
2riesCreated(a
3penSegmentCount
6tCountDown
7Head
7IsRunning
3viceProviderDisabled(bj
?Enabled(bj
2ssionClose(aaaaa
7Open(aa
2t
3(b
5a
5ba
5f
5w<uint24[]>
4cb
5cb
4dbb
7a
3AElfCommunityMultisig(bb
7DevMultisig(bb
4ccess(ba
9oryDataContact(b
5~(ba
7ve(f
4dOwner(abb
5dr(b
7ess(cb
:ForReturn(b
:es(gggg
5min(b
4genda(cb
4llLock(f
6PaymentsSent(a
6ow(b
4mount(ca
4ngelCardDataContact(b
4uditedAssetSize(a
5xOwner(b
3Big&(b
4lockForSale(aaab
4onus(a
4uildingData(aaaaaaaa
@baaaaa
?Array(h
;Sale(aaaa
5rnStart(f
5yout^(aa
3Cert(id
4hangePlatformFlag(f
4ityData(baaaaaa
7Name(bd
<d
7Snapshot(bafaaaa
4laimFee(aa
8Rate(a
4oefRew(a
5in(bb
5mmissionRate(a
=Value(a
5ntract!es(bbb
;orManager(b
;s(bb
5untryCode(kc
4reditsPerEth(a
5owdsale!
5ypto^(aa
3Dappinfo(cbcc
5ta(acccc
4ebugExtra(ie
5script(cc
6tina~(bb
5vFee(k
4iv@(a
4onateStep(a
4ura~OfLock(b
3ENGCommunity!(bb
6Dev!(bb
4cosystem&
4dgePerPosi~(a
5itMode
4nd@(aa
4pochData(baa
4th=(ba
4xchanger(bf
5tra(a
3FFSettings(bbaa
4ee(a
6s(aa
4inalBlock(a
4reeGWT(a
7MKI(a
7QDA(a
8PY(a
7$s(a
7zingEvent(baae
4und(b
7MintingAgent(b
3GasBuy(a
6FeeReimbursed(a
6Limit(a
6Sell(a
4ene(afl
7sisBuy^(a
4ift@(a
3HFee(k
4ome(c
5tLists(c
5urlyRate(a
3Implementa~(bb
4nRate(a
5dustry(c
5itData(aaaaa
5ternalValues(ea
4tem(bab
3LPTargetPos~(a
4imit(aa
8ed(bf
4ock!(b
@f
7Date(a
5gFile(b
5t(a
4pFee(a
5IsStart(f
5MaxVolume(a
3MasterKey(b
9|(b
5xAirDropXblock(a
7llowedBetIn$s(a
7ttempt(e
6ChequeValue(a
6MinersXblock(a
6PosXblock(a
4emberInfo(bbd
9Level(bbe
5ssage(c
4in(a
6ChequeValue(a
6Fee(a
6Lot(a
6Sum(a
4ultisig(b
3Name(c
4ewBig&(b
3OutRate(a
4wner(b
:b
9cb
3ParticipantStatus(b
5ss(d
5used(f
5yrollLocked(f
4eriodITO_start@(a
9PreITO_start@(a
6missionsList(be
5tCardDataContact(b
4icosPerEther(a
4latformInforma~(c
4rcntRate(a
5esale?Limits(aa
:Handler(b
5ice(a
9ba
8Increase(k
8s(aaaa
5ofitAddr(b
4wd(d
3Rank(ebk
5te(a
9a
8bbaa
8i
4ecipient(b
7ver(b
6ord(dcc
5deemRate(a
5gistra~&(b
5leaseDate(a
5wAddr(b
6ardMulti(a
>AD(a
4ound@(a
3SAToE&(b
4cndOwner(b
4erviceProviderFee(ba
4haredStorage(bb
4tart@(aa
<TLP1(a
?2(a
6te(a
7us(aa
5orage(bb
4ubscrip~To(bm
5mmRew(a
3TPE(a
4akePot(a
4hrdOwner(b
4ime(a
7s(aa
4oken^(a
8sPerWei(a
4radeable(f
6nsferLock(f
;able(bf
5ustee(b
4xFee(aa
3Unlock@(a
5paidPercentage(de
4p(aaab
7b
4sername(cb
3VotingDescripion(c
3Whitelister(b
4orldData(aaaaa
8Snapshot(afaaa
4riter(bf
3_Interest_Rate(a
4your_game_number(c
D_between_1_15(c
3cashOut@(a
3divFor^(a
9SellBack(a
9Tank(a
:ransfer(a
3firstTTax(a
<?(a
3h$Purchase(bbaa
4erFinalized
6Started
3max$s(a
4in$s(a
4onthlyprofit(aaa
4yadress(b
3secondTTax(a
=?(a
3tankImposedMax(a
4ingsChanged
?(aaeeeef
8Set(baa
4le(ii
6Bond(a
6ment(bbacc
3up
5(ab
5Accounts
6llowance(ba
5CrowdSale
:sale(aa
5Done
5GWT(ccaaabba
5ML(aaaa
6ultipliers(aaaaa
Faa
5PreSale(f
5QDA(ccaaabba
6PY(ccaaabba
5Reserve(b
5$(cca
>aabba
5iBird(ccaaabba
5packagesale(aa
6resale(aa
1gdToWeiRateSet(a
1hareActive
5DATA(c
5HolderVoted(baf
5Manager
5^
5RoomDATA(bc
2inySquirrels
3p(ca
4IdToApproval(a
8Owner(a
8Status(a
4SellMaster
4s(a
3tCloneslord!
>Req
2ootRobinHood(ac
3pClosed(i
4Deployed(baai
4Keeper(b
3rt
3wADV
4Bool(f
4ChargeCount(b
:@(ba
4Info(a
:c
8Bool(f
8Str(c
4Msg(j
4NextCliff(ba
4^(c
5urchased(abbaa
4Release(ba
4Segmenta~(baa
4TestB(f
8U(ca
4Unrelease(ba
4_!_for_op~_C
5address_for_op~_B
6utomated_Sell_price
5the_name_of_Op~_A
HB
2rimpFarmer
1iaCashCoin
2gn
4(abaeac
5cc
4alingDisabled(ba
9Enabled(ba
5ture(bcc
9Added(cca
9CheckerChanged(b
9Invalidity
9Reg
4ed(baeqj
6DigitalAsset(c
5rChanged(b
2kobaContinuousSale(a
2lverWhitelist(bf
2mpleCoin$
6Dice
6ERC20$
6GameList(a
6Lotto
6Mixer
6PreTGE&
6Registrar(<AbstractENS>da<Resolver>
6Sign
6TGE&
7oken
;Coin
6token
2ngleTransact(babj
4ularDTVCrowdfunding
;Fund
;$
;Workshop
CFee
2te(c
2xPlayerRoulette
1kywalker(bb
1lashing(bad
2eep
2opeIncreased(a
3t(b
4Machine
4s(a
1mall(b
3rtAirdrop
5&_Allowed(b
5Pool$(ab
5Revshare
6oulette
=Dividend
=$
BDividend
5$(cce
:Controller(<ISmart$>
5Verifying
5exInvoice(bb
5poolVersion
1napshotAndDistributePot
8Taken
8Updated(baac
3tch(abb
1oarcoin
2cialNetwork
2ftCap
7Reached
>(a
4_Cap
4cap
7Reached
>(ba
4ware$sPercent
>|
2ld
4(aba
5ba
5ibba
4Block(aaaaab
4NoBonuses
4$
9(bac
<d
9s(a
:FromCroupier(baa
4_$
3idStampRegister!
3ved(b
8cc
2ng$Added(bf
9Exchange&Set(bbf
9Removed(bf
2rtCompeti~Scores(i
4ingCoins
2ul;(bb
3ndcoins!
3rceChanged(cca
1paceImpulseERC20
5KIM$
2ecialPurchased(baa
7Rate(bbaa
7Trained(aaay
5ficApproval(bba
3nd(lbc
5erAuthoriza~(bf
5ingApproved(bba
8BlockedEvent(b
8UnblockedEvent(b
4t(bac
5$s(bba
3rm$
2iceControlled(b
5Hours(b
5Members
5Payroll(b
5UpPrizePool(baca
3n(ba
6ma
4TheWheel(b
4nerCountsBy!(b
7sBy!(ba
2lit(de
5;(baa
5ter
8EtcToEth
:hToEtc
2oke(qc
3nsor
7Added(b
:resses(a
7Music(aab
7edLink
=(c
7s(b
8Qty
8hipReceived(ccca
3ol?
3rtsBet
1tabiliza~Fund
3ff|
3ge1Alloca~
52Alloca~
53Alloca~
5BonusUpdated(aa
5Changed(c
6losed(a
5Distributed(ea
5OneDisable
8Enable
6pened(a
5ThreeDisable
:Enable
6woDisable
8Enable
5Updated(cc
3ke
5Destroyed(aabd
5Event(baaa
5Increased(cbaa
5Released(aabda
5d(baa
8daaaa
4ingInterval(aa
3ndard$
8_1
92
93
94
95
3rbaseEarlyPurchase
EAmendment
4midFunc
4t
5(ba
8aaaa
6cd
51
60
52
53
54
55
56
57
58
59
5City
6laim
6ompeti~(eeeeHi
@Event(i
6rowdsale
>(bba
5Date
9Updated(aa
6istrib
<u~
6raw
5Game(a
:cc
6uess_tw(cc
;wis(cc
5ICO
8(a
8ForOp~sHolders
6co
8Stage
5MiningByIdArray(h
5NewEpoch
8Game(ccc
8Miner
=(b
7xtStage
5OK
6fPayments(ba
6p~sSelling
5Paymens
6eriod(aaa
6reSale
8sale
5Q(cc
6uiz(cc
5Rebuy
7found(f
8und
6ollDice(i
7ulette(e
5Sale
5@
9Changed(a
6radable
5_Resume_ICO
=PreICO
6qui_qz(cc
9z_qz(cc
5dateICO
9Presale
5ed(a
9a
7Game(aa
<baaa
7SafeUnlock(a
5ing^
5sAtChanged(a
3tEvent(c
9A(cb
9I(ca
4PreICO
4e(e
6g
5Change(e
;d(ae
=e
>ac
>e
=f
>c
5Switch(e
5Transi~(aaa
@ee
5Update(n<int128>mabn
4ic
6EthAvailable
B(nn
Bs
C(g
4sEthereumRaised
5Minted
5Reserved
5Sold
5Total
:Supply
4usCow(ba
6telega(b
2ealResources(a
3emitFund
3p(aa
4Func~(aaa
3xIssued
4Talk
2gFourbonusEnds
3OnebonusEnds
3ThreebonusEnds
4wobonusEnds
2illToGo(a
2ock(ccaca
5s!
3neLog(aa
3p
4(d
4Crowdsale
4Distrib
4Game
8(e
4ICO
5co
7Manually
4Paymens
4Q
5uiz
4Sale
5ell
4$
5ransfer$
3rageEnabled
>(f
7Fee(ba
8und
7Updated(b
4e(baad
6g
5File(adcccccaj
:dcccccaj
4iqaCash
2range
4tegy!
3eamer&Changed(ba
3ike
6(kike
6s
7(g
4mTeam
3ongHold
1ub(aa
3Canceled(ab
3Div(a
3ModuleSuspended(a
3OnHold(afb
3$Create(aeccb
3mission(a
<cbbac
;bp
:Accepted(b
5tNote(c
6ProofOfOwnership(d
6Transac~(d
3scribe(b
;baaa
7p~DepositReturned(aabb
3tract?(a
2c$
3cessAuc~Event(bbaa
7Ico
7fulVote(bdd
:ly;edFromCompanyInventory(bad
7or(bb
2doEnabled(f
2ggest(c
7ions(b
2mmRew
4ary(b<uint128[]>
9ggg<uint128[]>
2nset
6(f
2perUltraPowerCoin
3pliedTo(ba
5y
6(a
6Burn(a
6Changed(a
?a
6LimitChanged(aa
6Op(aaa
4ortAddOn(aba
:ed(b
7Component(aba
7Fund
7Removed(b
2rpriseValue
3vey(baco
2spendEmployee(bi
1wap&(ba
5reated(ba
9ion(bbaab
4Manager
4Paused(a
4Resumed(a
4Started(a
4ped(ba
7$s(baa
3rm(bba
5Redistribu~
2itch
6$Transac~sOn
1ylence
2mbol
6Change(c
2n$!
0TAAS_CONTRACT
5VAULT
2CTICALCRUISER
?_EXTRACTION_BASE
@FTL_SPEED
@MAX_CARGO
2DPOLE_BASE_REQ
9OOST
2IL
4_EMISSION
2KLIMAKAN
2NKER_TYPE
4_TYPE
2O
2P_POLL_DURATION
2RGET_ADDRESS
7DURATION_BETTING_BLOCK
7EVE
7TOKENS_ADDRESS
9TAL_SUPPLY
7USER
2XRATE
1BT_MINER
2owner
2rate
1Coin
1DEContributor!es(a
>Count
>InitialBonusBy!(b
3EndDate
3StartDate
4upply
9Remaining
2z(acec
1EACH$$
3M
40
41
42
4S(a
5_TOTAL
4_ACCOUNT
6DDR
9ESS
7VISORS_SHARE
6LLOWANCE
6MOUNT
6ND_ANGEL_SUPPLY
5BONUS
:_PERCENT
>_CENT
5CAN_CLAIM_AFTER
5FUND
5GROUP_WALLET
5HOLDER
5INCENTIVES_AMOUNT
5KEEPING
5LIMIT
6OCK_DURATION_PART1
G2
:TIME
5MEMBER_VAL
6ONTHLY
5NAMES(a
5PERCENT_EVE
=GZE
6OOL_ADDR
:INIT
:TOKENS
5RESERVE
<_FTX
5SALE_MULTIPLIER
6HARE
:_PERCENTAGE
6TAKE
6UPPLY
5TOKENS
;0
;1
;2
;_LOCK_PERIOD
<PERCENT
<RESERVED
<SUPPLY
:_AMOUNT
;CAP
5UNFREEZE
5VESTING_AMOUNT
=CLIFF
=DURATION
=PERIOD
=WALLET
5WALLET
4mint
2C_TEAM_WALLET
5OKENS_NUMS
2M|
2RMS_AND_CONDITION
CS
2STER
4_CONTRIBUTION
5MODE
1HAWING_DURATION
4_CYCLE_FUNDER
;LENGTH
;USER
2INK_TANK_FUND_TOKENS
3RD_SUPPLY
6TIER_DISCOUNT
;RATE
;SALE_START_TIME
6USER_CUT
4TY_DAYS
2OUSAND
2REE_YEAR_KEEPING
4SHOLD1
92
93
94
2reeDB$
1IC
3KET_PRICE
4_TIME
2E
3R1
5END
5_BONUS
6CAP
6PERCENT
7RICE
6RATE
42
5END
5_BONUS
6CAP
6PERCENT
7RICE
6RATE
43
5END
5_BONUS
6CAP
6PERCENT
7RICE
6RATE
44
5_PRICE
6RATE
45_RATE
4_1_CAP
52_BUYIN
7CAP
53_BUYIN
54_BUYIN
2MELOCK_SERVICE_NAME
4OUTBLOCKS
7_DESTROY
8TIME
4R_STEP
4THRESHOLD
4_LOCK_END
5MULTIPLIER
5PERIOD_IN_SEC
5TO_COOK
8HATCH_1SNAIL
8MAKE_1_SHITCLONE
=TOMATOES
8STALEMATE
4startICO
1KPUserArrayIdentifier(b
7Registered(b
7s(a
1LD_NODE
1MEX!
;Set
1OKEN
5(c
5OPSPLATFORM_JOINTTOKENS
5SALE_BLACKLIST
6_ACCELERATOR
:OUNT_MAX
8DVISORS
8LLOCATED_TO_PROOF
DSERVUS
8VAILABLE
7BOUGHT
7CAP
:_ICO
7DISTRIBUTED
7EARLY_BACKERS
7FOR_OPERATIONS
;PRESALE
;SALE
9UNDATION
<ERS
8UTURE
7HARD_CAP
7LOCKED_1Y_TOTAL
>2Y_TOTAL
7MAX
:IMUM_SUPPLY
7NOT_FOR_SALE
7PER_ETH
>ER
@_DAY_ONE
AEARLYSALE
APRESALE
;KETHER
;USD
7SALE
;_HARD_CAP
8OFT_CAP
9LD
;_LIMIT
8UPPLY
7TOTAL
<_SUPPLY
7address
5_ADDRESS
7MOUNT_ICO_STAGE1_PRE_SALE1
P2
P3
P4
P5
F2
=PRE_ICO
6BONUS_RATE
8UNTY
7USINESS
6CAP
7ENTS
7LAIM_WAITING_PERIOD
@_PERIOD
7OMMUNITY
9PANY_OWNED
8NTROLLER_INTERFACE
7REATED_MIN
;ION_CAP
;ORS_SUPPLY
6DECIMAL
=S
>_MULTIPLIER
?UINT8
=_MULTIPLIER
8SK_BONUS
6EARLYSUPPORTERS
7SCALE
7XCHANGE_RATE
6FIFTH_PRICE_RATE
8RST_DISCOUNT_MULTIPLIER
<EXCHANGE_RATE
<PRICE_RATE
7OR_COMUNITY
:INVESTER
:SALE
:TEAM
8UNDATION_CAP
;ERS
;INGTEAM
9RTH_PRICE_RATE
7UTURE_CAP
6HARDCAP
7ODL_3M
;6M
;9M
6ICO1_LIMIT
92_LIMIT
93_LIMIT
7NFORMATION_ADDRESS
8VESTORS
6LIMIT
7OCKING_PERIOD
6MAIN_CAP
8X
7IN
9TING
9_PRICE_THRESHOLD
7ULTIPLIER
6NAME
6OFFERING_ALLOWANCE
7WNER
6PER_ETH
=ER
7REICO_CAP
9SALE
=_CAP
>LIMIT
8ICE
;_D
=ENOM
<N
=UM
<THOUSANDTH
<WEI
9VATE_SALE_CAP
7UBLIC_SALE_CAP
6RATE
:_05_PERCENT_BONUS
;10_PERCENT_BONUS
<5_PERCENT_BONUS
;20_PERCENT_BONUS
<5_PERCENT_BONUS
;30_PERCENT_BONUS
;40_PERCENT_BONUS
;BASE_RATE
;CROWDSALE
;PRESALE
7EFERRAL
8SERVE1_CAP
=2_CAP
6SALE
:1_NORMAL
<PRE
:2
:3
:_ALLOCATION
?WANCE
;CAP
;LIMIT
;SUPPLY
7CALE
7ECOND_DISCOUNT_MULTIPLIER
=EXCHANGE_RATE
=PRICE_RATE
7HARE_OF_ADVISORS
?BOUNTY
?LEGALS
?TEAM
7OFT_CAP
7TANDARD_ERC20
C23
9RTED
7UPPLY
<_AIR
@DROP_LIMIT
=BOUNTY_LIMIT
=CROWD
=ICO
=LIMIT
=MAINSALE_LIMIT
>KT
=OWNER
=PRESALE_LIMIT
=SEED_LIMIT
BPRESALE_LIMIT
=TOTAL
7WAP_DURATION_HOURS
7YMBOL
6TARGET
7EAM
7HIRD_DISCOUNT_MULTIPLIER
<PRICE_RATE
7OTALSUPPLY
;_CAP
8_CREATOR
7RANSFER_PROXY_ADDR
ECONTRACT
8EASURY
6UNIT
:_RATIO
7SDCENT_PRICE
6WALLET
7ITHDRAWAL_END_DATE
ASTART_DATE
4TH_PRESALE_ONE
?THREE
@WO
2TAL
5SUPPLY
5_AIRDROPPED_TOKENS
7PC_SUPPLY
7RK
6BONUS_SUPPLY_ETH
6CAP
7OMMUNITY_ALLOCATION
8NTRIBUTOR_COUNT
7ROWDSALE_FUND
6DINOTOKEN_SUPPLY
6ETHER_HARD_CAP
6HAWKING
6ICO_CAP
:TOKENS
6LARE_FOR_SALE
7BTOKEN_SUPPLY
7OCKS
6MAX_CAP
7IND_TOKEN_SUPPLY
6NUM_TOKENS
6PARSEC_CREDIT_SUPPLY
7OOL_COMMISSION
7REALLOCATION
9SALE_TOKENS
6RECEIVED_ETH
8QUEST_TOKEN_SUPPLY
8SERVE_FUND
7OUNDS
6SATOSHI
7HARE
8IP
7OLD_TOKEN_SUPPLY_LIMIT
7UPPLY
<_ACES
=BOTTOM_BOUND
=CAP
=LIMIT
=UPPER_BOUND
=VALUE
6T8EXTOKEN_SUPPLY
7EAM_TOKENS
7OKENCAP
;S
<_AVAILABLE
=FOR_CROWDSALE
APRICE
=ICO
=SUPPLY
=TO_DISTRIBUTE
;_AMOUNT
<CAP
?_OF_SALE
<SUPPLY
;s_SUPPLY
7ULIP_SUPPLY
6VALUE
6WINS
6XB_TOKEN_FOR_PRE_SALE
2URNAMENT_BATTLE
;ENDS
;TOKENS_PERCENT
;WALLET
2WN_INCREASE_RATE
5START_PRICE
2XB$
1RAC_$s_left
3DE_REWARD
4ING_STARTED
3NCHE2_ACCOUNT
4S(ba
5ACTION_MIN_IN_ETH
5FERABLE
8MANAGER_KEY
8S_ALLOWED
:PER_TRANSACTION
8_COST
9PROXY
5ITION_WINDOW
2CExchangeRate
3TotalSupply
2EASURY
2LCOIN_DECIMALS
2M1BonusActive
2ONVSupply
2SOffset
2USTEDADDRESSES(b
1T$
1UI_ADDRESS
5LLOCATION
1V&
3rowdsale&
2Threshold
1WC$
2O_DAYS
4YEAR_KEEPING
1XDELAY
2Otoken
1YPE_EXPLORER
=_FREIGHTER
5FREIGHTER
5HASH
5NOT_AVAILABLE
1ake
4(a
5j
4Back
8$(a
5uyOrder(dbaaabb
4Eth(ba
4Money
5yEtherTeam!
4Pot
5rize(a
4SellOrder(dbaaabb
4_payout
5share_team_AES
4dFunds
4rBoughtAsset(baaa
5SoldAsset(baaa
2lkBounty(d
2nkDeposit
4SellMaster
4;(b
4WithdrawAll
<Some(a
3ya
2rgetCreated(b
6Hash
6|Updated(b
2skCompletedEvent(a
4Updated(ae
3t$
2x
3(a
3TillNow(aa
1deFinalized(a
3Started(a
5opped(a
1eam
4!
6visors|
5lloca~
5mount
5ndAdvisors
7Partner$sAllocated(bb
4Box
4Created(ah
4Deleted(ah
5isqualified(b
4Fund
8s$s
4HOMO
4LockingPeriod12Months
B8Months
A24Months
A6Months
4Members!
<mount
4Pool!
4Registered(cbcf
4Sum
6pply
4$sAllocated(a
4Vest@Limit
8ing(baa
4|
:?
:Updated(bb
4_|
2chnicalRise
2lcoin(b
3egaOut(b
6Send(b
2mp$sSend(baaa
4late
2n$
2rminate
9Employee(bbie
4sOfUSe
8se
2st
41
5(a
52!
42
5(a
43
5(a
44
5(a
45(a
46
4CitySnapshot(ba
5ontract
4Issued
4Network$
4RandomNumber
4Talk
5ext
5oken(baa
4UserBitFlag(ba
4WorldSnapshot(a
4X
4ingEnabled
2thered(bccaiaac
2xtChanged(c
<dcc
4Message
1hanks(bbee
3w$;s(bf
5ransfers(bf
2e10ETHPyramid
3EthereumLottery
3Game
4reatEtherRace(c
5id
3Winner
2ird!=
5PartyPlatformAddr
3sExternalAssembly
2reeDLPrivate
7$Deposit
3oneClaimedEvent(a
2xMsg(bc
1icked(aaa
5t(abW
6Bought(b
6Pool(d
7urchase(aba
>d(baaaa
6Refund(aba
6_^
6sBought(ebN
7InGame
7Purchased(bhhp
7SoldForThisGame
7_Sold(ca
2er(aa
4?
4BasicDividend!(b
4ClassicDividend!(b
4RainmakerDividend!(b
4StarterDividend!(b
4WildcatDividend!(b
4_Basic
:_Registra~
5Classic
<_Registra~
5Rainmaker
>_Registra~
5Starter
<_Registra~
5Wildcat
<_Registra~
2le
4Claimed(aaab
4Updated(a
2meBoundaryChanged(ca
4Deposit
4End
7Changed(ca
4Finish
4Left
8BeforeCrowdsale
5ock
8Send(bba
<Created(bbab
8r
4Now
4PassBy(ca
4Start
4;AllowanceChanged(ca
Aed
4WeekOne
8Three
9wo
5indowUpdated(aa
4_Start_Crowdsale
5call
4out(aa
4r
4stamp
2tleAdded(abaccca
6pproved(a
5Delisted(a
5Purchased(ba
5Updated(aaccca
1oLend
2Owner
2Rent(aaab
2Sponsor
2$
2ggleCrowdsale(f
6Feed(f
7reezeBuying
<Selling
<$(a
6Maintenance
6;Allowance(f
GFor(bf
2ken
5(<>b
9a
6a
7b
6b
6ccea
5Activated
6dd(ab
8ed(baa
<b
8ress
6irdrop(ba
6ltPurchase(bbaaacc
6mountToPay
6uc~Completed(abba
=reated(aba
5Back(a
7lance
<(b
7nkBonusStage(a
9FifthStage
;rstStage
:orSale
;urthStage
9SecondStage
:old
9ThirdStage
6et(b
6onus(bba
:Given(ba
7ught(ba
>a
?a
@a
6ranch(ae
6urn(a
:baf
9ed(ba
>aa
9t(ba
7y(ba
;ac
8Presale(baac
5Change(b
;d(b
6laim(bbaa
:4BTC(bbaaaa
:ed(bbaa
6ontract!(bb
=Changed(b
6reated(abc
>cab
=b
>a
>b
=ee
:ion&
5Deactivated
7ployed
=(a
8osit(bba
7stroyed(ab
:uctible
6istributed(ba
6rain(bba
7op(ba
:gh
5ERC20
:(acc
;icc
=ecb
6missionEvent(baf
6ntity
6ther(cc
6xchangeFailed(ba
5Fallback(ba
6inalized
6orInvestor(aaa
8Sale
6ree(a
7ozen
;(ac
<fc
6ulfillment(vLexa
Bza
Cexa
7nd(b
9;(a
5Game(a
9;(ba
6enera~Disabled
?Enabled
6ift(ba
6oalReached
6ranted(ba
?c
5Hash(ccea
6old(ba
9er
;(ab
5IdToOwner(a
6nvestment(bba
5LimitReached(aa
7nked
6ongExercised(vLexaa
Dzaa
Eexaa
5Manager
<(ga
<Entity
6etadataUpdated(abc
6ineSupply(a
8t(ba
9ed(a
<ba
9ingDisabled(bf
<Enabled(bf
5Name
5OPSSale!
6ne
5Partners(bba
6erETH
6ing(a
6oolExhausting(a
6reSale;(bba
8salePurchase(baa
7iceChanged(a
:ETH
:InWei(aa
:ProposalSet(aaa
:Updated(a
7ocurement(bbaa
6urchase(aabbaa
>ba
@a
Aa
?ba
Aa
Ba
Caa
Bc
Bf
@eaaaa
=WithGuarantee(bbaa
=d(baa
Baaa
@baa
Cj
?caaa
5RK50Z
6ateChange(a
9Updated(a
6edeem(ba
7fund(ba
7lease(ba
<d(ba
7serveMinted(a
7turn(bba
;ed(ba
7wardsAdded(ba
5SCADAEntity
6ale
9(a
;a
:ba
<aa
9Closed
:rea~(ab
9End
9Fail
:inished
A(aaaa
Bcbaaa
9Opened
9Paused(f
9Start
;op
:ucceed
9s(b
6ellPercentage
7ndFail(a
9er(b
8t(ba
6oftCapReached(a
7ld(aa
<aa
=bb
?c
<bb
;caabb
:ba
<a
=a
=f
>f
6tarted(b
8te(ae
7oreUpdated(bb
6ubtracted(baa
7pplied(baa
6wap(ba
9Over
5ToppedUp(baa
7tal
6racker(a
8nsacted(bbdbab
:fer(ba
@a
?ba
=Allowed(ab
=Disallowed(ab
=ForFounder(babb
>rom(bba
=To(ba
=red(abb
5Union$
6pdated(bb
6sed(ee
5Value(aca
5|Holder
6in(baa
7thdraw(bab
Aa
=al(ba
6rapper
5_1
62
63
64
65
6Allow;
6Descrip~
6ExchangeValue
6Offer(bbk
6^
6Unlocked
5rateUpd(aa
5s(ca
6Added(ba
7llocated(baa
7reFrozen
6Bought(baa
@a
Aa
Ba
Ca
<s(a
7urned(bba
:t(a
6Claimed(ba
=Event(baaa
7ollected(ba
8ntract!Set(bb
7reated(ba
@a
?ba
6Delegated(bab
8stroyed(ba
7istributed
?ion(ba
6Flushed(ba
7orSale
7rozen
6Given(ba
6Import(baa
7n(a
7ssued(ba
?aa
Afa
>ba
<Crowd(baa
<Owner(baf
6Minted(ba
?a
?e
6Out
6PerETH
:thUpdated(a
<er
9KEtherUpdated(a
9Wei
7urchased(ba
Ba
Ca
Abaa
Akaaaaa
6Received(aba
?ba
9laimed(a
8leased(aaa
?ba
8served(a
8warded(bbabaa
6Sent(ba
7old(a
;ba
=aaaa
7pent(ba
6;(bba
>able
>ed(ba
@ToHold(ba
BOwner(ba
>rable
?ed(ba
6Undelegated(bab
8frozen
8locked(ba
7pgradedFrom(ba
6Withdraw(ba
@ba
>n(a
@ba
6_For_Sale
7Per_Dollar
A_Denominator
BNumerator
2mbola
3eka
2oBig^Diff(aa
3k(baaa
2pChainCoinMintFinished
4oinSaleClosed
3UpMember
3pedUp
2ssMyCoin
2talAirdropRequests
5Capacity
6ollected(a
6rowdsaleContribu~s
>Supply
5Deposited
6ividendsPerShare
5EDUSupply
6THGivenToNorthPole
5Fee
8(g
8sReceived
6unds
5Genesis!es
5Holders?
5ICOSupply
6nvested
5OwnerSupply
5Paid
7yment
<(a
6oSRequests
7t
5Raised(a
7te
6equests?
5SantaCoinsGivenByNorthPole
6pecialFeeTakes
8nders
6upply
;(aab
;Set(a
5TOkenSupply
6oken
:Supply
:s
5_?
6Deposited
=s
6Entries
6Gamblers
6ICOSupply
7nvestors
6Paid_Out
8youts
7layers
6Savers
7old$
6$Supply
6of_Players
5balance
<(g
5presaleSupply
5supply
2urnamentCreated(a
:Over
2wers(a
3nCrier
1rack(bjaa
3dable
8$s
4e(aadbb
7bab
6bababb
<a
<d
7baaaa
8ba
:a
5Affected(aa
5Enabled(f
6thShop(a
=ba
6xecute(bbabab
5Financing
5Id
5List(a
9ing(bbbaaa
Cff
Bf
=dbb
5Status(bbaa
4ing(f
7Start(a
3in(lll
3nferETH(ba
4sCompleted
>s
?(g
5ID
5acted(bbdbaj
8ion(dbbaa
;Accepted(a
;Blocked(ba
;Cancelled(bacb
DICAP(dacb
<ompleted(naac
=nfirmed(aa
DAfterDispute(aa
IEscala~(a
Jxpiry(aa
DByMediator(aa
;Disputed(a
;Escalated(a
;Failed(bba
<eeChanged(a
;Initiated(abbbbbad
;Pending(abbaa
;Refunded(aa
CAfterDispute(aa
HEscala~(a
Ixpiry(aa
CByMediator(aa
=voked(a
;Settled(aaa
BByMediator(aaaaa
<ucceeded(bacb
DICAP(dacb
;s(d
5fer(abb
:dbb
9ba
;b
:b
;<uint48>j
;a
<a
=a
>a
<b
=jj
<j
;ba
<b
=af
;ca
;d
<ac
;l
:cb
9db
8Able
9ctive
9dminPending(b
=ship(b
9gentSet(bf
9llowanceFor(bf
=ed
?(f
9mountFromBankAccountTo!(ab
9ndCall(bbaj
;Lock(bbaa
:imalToAnotherUser(ab
:tique(dbb
8Back(baa
:se(acc
9ounty(ba
9y(bba
8Confirmed(baa
;tractOwnership(bb
:w(ba
9reators(ba
:yptibles(ba
8DFN(bba
9ata(bbaj
9isable
?(a
?d
;solved(bba
8ERC20(bba
;X$Initia~Event(abcbba
9TH(ba
9nabled
9rror(ba
9th(ba
;ToAddr(ba
;er(ba
=Initia~Event(abba
9vent(bba
8Fee(ba
;RateConfirmed(aba
?Executed(aba
?ProposalAdded(aba
;s(ba
9lower(bba
9rom(bba
?ba
<CompanyInventory(bad
9unds(aa
>ba
8Genesis(b
8Happened(adbb
:sh(dda
8InternalLedgerAT(bbad
8KO(bba
8Locked$(bbaa
8ManagerApproved(b
?Revoked(b
;ual(bbac
9inersReward
;imumFeeConfirmed(abe
BExecuted(abe
BProposalAdded(abe
9yGG$s
8OddEther(ba
9wner(b
=ship(b
Cb
AOpera~Event(ba
8PreAllocatedFunds(aba
8SalPay(bba
9ell(bbac
<Agent(ba
ABounty(ba
ACreators(ba
AMulti(ga
ASiteReg(ba
HMulti(ga
9iteReg(ba
9tarted(bbha
;tus(bf
?f
>Changed(f
8TRAC
9arget$(ba
9imeSet(a
9oAllAccounts
:BTCoE(a
@ba
;uyer(bbab
:Exchange(bbaa
:Referral(ba
@er(bbaaa
:SAToE(a
@ba
:Waves(ac
:ken(bba
>gaa
=Ownership(b
=ToIco&(b
=s
>(ba
8Unsold$sBackTo$&(b
9pdated(ba
8WithRef(bbaa
8_data_enabled
9nodata_enabled
9of_authority(b
E_data(b
Flogic(b
8able
<Changed(f
<Multsig(ag
8edERC20(bba
;th(ba
8red(a
=bb
<ba
<dbb
;Founders$s(ba
;GNS(bba
;PreBuyersReward(ba
>fix(cbb
;@locked$s(bba
<oken(ba
;Unlocked$s(bad
8sEnabled
5muted(bbbaa
:;(bbabcc
3sh(a
3velcash
2easureChest
3eLim
6st(b
2iger
4gered(a
3pCoinTeam!
<Supply
2ocarAdmin(b
3n$(b
4eriumSupply
2ust(b
7bf
5Eth
5coin(b
5ed&(bf
6e(b
5lessTransac~_Protec~_Seconds
ERefunded(aa
Ds_Log(a
FTransac~Height
>ferStatusModified(af
9_;(abba
2y(c
3UnLock=(b
9Creator=
1urnInfo(a
2torial
1woAndAHalfPonzi
1x(bac
4bac
2Executed(i
2Message(aea
1ym$sPercent
9|
2zonSupply
1zT$
0UBETCOIN_LEDGER_TO_LEDGER_ENTRY_DOCUMENT_PATH
YSHA512
2IATARPLAY_CAP
2Sex$
2TC
1CCOIN_PER_ETHER
3oinSaleIsOff(a
=n(a
1DF_PORTION
1ETH
1FOcoin
1INT256_MAX
1KG_FUND
1LTRA_HERO_MULTIPLIER
1NDERWAY_STATUS
2FOMO(ccaaf
3REEZE_DATE
9TEAM_BOUNTY
2ICORN_ID
3T
4ED_NATIONS_FUND
4_PRICE
3X_DAY
2JUST(ccaaf
2KNOWN_TYPE
2LOCKED_TIME
6INTERVAL
6START
6_OUTINGRESERVE
7PHASES
7TEAM
;_1
<2
2OPEN(ccaaf
2SOLD_ADDRESS
8LLOCATION_EXPONENT
BSIZE
7SOLD_RATIO
3PAM(ccaaf
1P_etherWin
3totalBets
3winBets
6Rate
1RL
3Of(a
1SA
2D
3(a
3Decimals
3ETH
6RATE
4ther^
3TUBESupply
3Value
3WEI
3XGE
3_CAP
5ENT_PER_GZE
=TOKEN
4GOAL
4HARD_CAP
4IN_ETH
4PER_ETH
;ER
8TOKEN
5URCHASE_AMOUNT_REQUIRING_ID
4SOFT_CAP
3cRaised
3to1ETH
5HAV(a
2ERS_address
4_ACQUISITION
5BUY_LIMIT
5GAME_WITH_TOKEN(a
6ET_CROWDSALE_TOKEN
9PRIZE
6ROWTH_TOKENS_RESERVED
5LOCK_BLOCKS
5TIMEOUT
5VOTE(aa
2_INSTITUTIONAL
1TC2MYT
3Start
5op
2ExchangeRate
2ILITY_ROLE
2TotalSupply
2WD
2XORedeemed(deajjeddba
1USD
1bermenschPrefund$(b
2iqIssued
4Talk
1cCoinMinimumSellingChanged(aa
6^Changed(aa
1foPonzi
1nBlock!(b
2Freeze(ba
;a
8Product(a
4ozen!(b
8Funds(ba
8$Event(ba
2Lock
6(ba
6!(b
2Mint(ba
2ableToAcceptPayment(bua
8RejectPayment(bua
3pproved(bb
3uthorizeTo;(b
;d(b
<Access(bs
2blocked(b
2claimedDividend;(aa
9Reward;(aa
4ockVerifica~(c
Ea
5sed
2delegate(ba
4rmineComponent(aba
2expended
2freeze
8(b
:a
8Account(b
?By@(b
9mount(baa
8$sOfOneUser(b
9ransfer
8Upgrade
4ozen(a
2halt
6ed
8(a
3old(ba
2iCoinSize
3cornsSold(baaa
3njected(b
3onChainSupply
3tedCardsForSale(a
3versalFunc~(eddddd
ASecure(eddddd
3x_@stamp_Binary_Trading(a
2lock
6(a
7ba
9a
8ba
8cd
6Account(b
6Credits(ba
6DateExtended(a
6Event(b
6Grant(ba
6Rig(e
6$
;(ba
6Wei(a
6_$s(b
6ed
8(ba
9cdb
2pause
7(a
7Event
7Refund
7d
2register(ba
<f
:List(gf
:Presale(b
:ed(b
>baaaa
=ca
=d
>a
<Prefix(cb
2set(bw
6cb
7cb
5Agenda(cb
5BlockForSale(aab
5Username(cb
3old$sBurnt(a
<Returned(ba
3uccessfulAttempt(b
2tethered(bccaiiaaa
2vault(aa
1pMineLVL(a
2PlayerResult(cbaaa
2Stats(aaaa
3uccess(cb
2d(acbaa
3ate(aac
8bbc
7ba
8ba
6!PayForService(b
7sk(baa
7ttribute(abdd
6Beneficiary(b
8tOnTeams(cba
7id(baa
6Confirmed(bba
8st(a
6Employee(biik
7nabled(c
7th=(aaaa
9er^Now
7vent
6Forecast(dddX
6Initiate&!(b
6Maintaining(f
;enance(f
7oney
6NumPlayers(a
6^(a
<ei
6Rank(baa
8te(a
<a
:Agent(b
7ecord(abaf
8lease^(ia
6SellAgent(b
?Bounty(b
?Creators(b
?SiteReg(b
7tate(a
<ee
:us(c
6$(b
6UserBitFlag(ba
:Expire(bi
<traData1(bd
C2(bd
C3(bd
:NickName(bd
:PELO?(ba
>Bonus(ba
6Value(a
6_Cash_Proof_amount(a
7MediatedTransac~(a
7START_ICO_TIMESTAMP(a
=PREICO_TIMESTAMP(a
@SALE_TIMESTAMP(a
7TrustlessTransac~(a
6d(bbjf
7Block(aaddddb
<ingState(baaa
8onusAccount(b
7Dona~!(b
7ExchangeRate(a
7MainAccount(b
7^(a
7$Informa~(cc
Hdd
2grade(abbb
8b
9a
9ba
9j
7AgentEnabled$(b
<Set(b
Ab
7ByCredits(aa
7Commited(b
7Enabled(b
7Master
7Proposal(b
?Submitted(aabbb
?s
@(a
=ed(b
8urged(b
7Rig(ea
<k
:ETH(ea
7Space(ek
<ETH(ea
7$s
7able$(b
7d(a
8&(abb
=oller(b
6ing(f
2loadMusic(acbfaa
6URL(ac
2ortRegistry(b
1sdCapUpdated(aa
3PerEthChanged(aa
6KEtherUpdated(aa
3RateSet(a
3ToEtherConvert(a
5$Convert(ba
2eQuantity(S
3Wish(c
3lessAirdropped$
3rAddTicket(<bytes5[]>
7ed(r
7ressLoaded(dc
5uthorized(bb
>For$(bbb
4=s(b
5ondByOffset(i
6ught(baaaa
4CategorySet(ba
5heck=(b
4Database(a
4GetPrize
4IDChanged(bd
4Message(bc
4Offers(b
4RetireHodl(a
4Sold(baaaa
5tatus(cba
4Tipped(bda
>df
4Upgraded(baaaa
4|(b
4_1
52
53
54
55
4nameDoesNotMatch(dd
4s
5(b
5List
5Number
1tils
2rust$
0VALIDITY
3UE
5BACK
5_DISTRIBUTION_KEY_OWNERS
6OF_UTS
1ECTORZILLA_RESERVE
C_VZT
2RSION
7_NAME
9UMBER
2STED_AMOUNT
=_TOTAL
7PERCENT
7TEAM_ADVISORS_SHARE
8OKENS
4ING_1_AMOUNT
:DATE
82_AMOUNT
:DATE
8ADVISOR_CLIFF
@DURATION
9MOUNT
8CLIFF
8DATE
9IV_RATE
9URATION
@_2Y
A4Y
8INTERVAL
8OFFSET
8PERIOD
8SERVICE_NAME
8TEAM_CLIFF
=DURATION
9IME
<S
<_FRAME
8WALLET
1ILLAGE_INCREASE_RATE
8START_PRICE
2NEYARD_ADDRESS
4_CAPACITY_PER_LAND
3$
2PFee
3Purchase(bbaa
3_MINIMUM
2UREFounders$Sale(aab
1KNToEth
1LTMultisig
2U$
1OISE
2LUME_25
75
80
760
770
7BONUS
<_CONDITION
7EXTRA_BONUS_CONDITION
2SAI
2TING_DURATION
7END_TIME
7PERIOD
=_DURATION
8REPARE_TIMESPAN
7START_BLOCKNR
7TIMESPAN
1PC0x
3x
2E_address
1RCOIN_DECIMALS
2EO_SALE_CLOSING_TIME
:OPENING_TIME
:PHASE_1_END_TIME
@2_END_TIME
1ULCAN_POD
:_EXTRACTION_BASE
;FTL_SPEED
;MAX_CARGO
8ROMETHEUS
A_EXTRACTION_BASE
BFTL_SPEED
BMAX_CARGO
2PRefundedForWei(ba
3_PER_ETH_BASE_RATE
<ICO_TIER2_RATE
D3_RATE
<PRE_SALE_RATE
4TOKEN_SUPPLY_TIER1
E2
E3
E4
1YRAL_REWARDS
1ZT_WALLET
1aN(b
2g
2lens
5tineRegistry
3id&Added(bba
=Removed(bba
:ibu~Check(af
5ateCitySnapshot(ba
8Exec(c
8Key(bd
8WorldSnapshot(a
8d
9(c
;a
5etherOracle
3ue(a
5Finalized(u
5IsTooBig
5Placed(bba
5Trader
5s
2nityReleased(c
8served(bc
6;ed(bbc
2ult
5(ba
5Closed
6ountPerProcess
5Mint(b
5RequestedUpdateForLockedVoting$s(b
1endTitle(a
2rifCert(ifjj
5Signature(jj
5ica~
<AccountOnJullar
<Event(bbi
6edInfoHash(d
8KYC(b
8User(d
>b
5y(b
6Account(bf
6Cheque(cc
6PublishedResults(k
4taseum$
2st(ba
4FF$s(aa
4ed(ba
6$sReleased(ba
4ing!Changed(bb
7Created(baa
@bbaaa
Eaa
7EndedByOwner(baa
7KYCSetted(ba
7MemberAdded(baaa
7Released(a
@ba
9voked(baa
7ScheduleConfirmed(bbaaaa
Oa
?Registered(bbaaaa
Pa
8ent(bbaaa
7;(bbaa
2ts
1icoOwner
2deos
2ewDividendPoolEnds
4MyDivs(b
6$s(b
4Offer(be
4Projects
4SellOrder(b
4_MediatedTransac~_Info(a
IStatus(a
5TrustlessTransac~_Info(a
JStatus(a
2olated(cb
2pMigra~(ba
2rtualExchange(bb
2sit
1oidAccount(bba
3pTken
2te
4(afb
5ba
6ca
6da
6f
6j
4Advertisement(ab
4Cast(bk
5ommitted(baa
6untAtProcessingStartByProposal(a
9PerProcess
4Executed(a
4Factory
4Inten~Set(aff
4Music(ab
4No(c
4On;(b
>Started(b
4Received(cba
6vealed(baaa
4Submitted(bu
4Yes(c
4_Customly(b
4d(aaafb
7b
7fb
9a
9c
6bbf
7f
8a
8c
5Event(abfac
5ForProposal(ab
4r
5Added(b
4s
5(ba
5ByCaster(ab
7ProposalId(aa
5Necessary
6umByProposalId(a
3ingEnded(bf
6Finished(aa
?bf
?f
6RightsGranted(ba
<Withdrawn(ba
6Started(a
>baa
2uched(bd
2xelDestroyed(eee
5Placed(beeee
5Repainted(eeee
5;red(beee
0WAD
2ITING_PERIOD
8TIME
4TIMEUNTILWITHDRAWORTRANSFER
4_BLOCKS
5TIME
2LLET
6_ADDR
9VISOR
8LLOCATION
7ECOSYSTEM
7FOUNDATION
<ER
7LB_ADMIN
:COMMUNITY
:RESERVED
:TEAM
7MARKETING
7PARTNER
7SALE
7T8EX_ADMIN
<COMMUNITY
<RESERVED
<TEAM
8EAM
2N_TOTAL_SUPPLY
1B$
1EEFund|
3KS_104
626
2I
3Contributed(b
3_CAP
4MAXIMUM_EARLYPURCHASE
5INIMUM_PURCHASE
4PER_ETH
;ER
8FINNEY
8USD
4RAISED_CAP
4TO_COGS
7INSIGHTS
2LFARE_HANDOUT
2TH
4_ADDR
1HEEL_SIZE
2ITELIST
9ED_PREMIUM_TIME
9ING_DURATION
=MAX_CONTRIBUTION
9_BONUS_RATE
:END_DATE
:PERIOD
:SALE_LIMIT
?PRICE
;UPPLIER
2OLESALE_THRESHOLD
;OKENS
5_ETHER
1IDTH
2LD$
2NNER
6TAX_PRECENT
6_COUNTRY_CODE
7SHARE
3TOKENADDRESS
3_CUTOFF
4PERCENT_PER_DISTANCE
2THDRAW
8(bbaa
8AL_DELAY
;END
>_TIME
;SCALE
;TRIGGER_AMOUNT
;WINDOW
8_ADDRESS
1LBDrawsDB
2M
3TBounce
4^
4finney
3|
1OLF2
43
44
1PXSold
1agerGames
2itStarted(a
2llet
6(gaa
61
70
62
63
64
65
66
67
68
69
6!Changed(b
=Updated(b
Fb
=esSet(bbb
6Change(b
>a
<d(b
?b
6Funded(ba
6Holder
6Set(b
6Updated(b
?b
6_Initial_Supply
6s(b
2rriorsAssignedToBattlefield(bba
8BackToHome(bba
2sted(baa
2tchAppliedFeePercentage
5=
<InEther
6lockSizeInEther
5CollectedFeesInSzabo
6urrentMultiplier
5Fees
5LastPayout
9@
5NextBlockReward
6umberOfPlayerInCurrentRound
5WinningPot
5araHashCoin1
2vesBitcoin$
5Community$
5Presale
5$
6ransfer(bca
1ealthShare
3rOut(a
2eklyLotteryB(b
@a
2iCapChanged(a
3PerTicket
3Raised
3Sent(ba
3;(ba
3_Remaining_To_ICO_Cap
3ghtedSubmission
3inEth
2lfareHandout(baaaa
7$Fund
3lness$
2stCoin
1hatWasMyHash(d
2ite(ba
5Bitcoin
5List(b
9Bonus$sEmitted(ba
9Set(ba
>f
9Updated(bf
Cb
9ed(bf
;InvestorAdded(bc
5list
9(abf
:b
;a
9!Added(bb
@Removed(bb
9Changed(bf
9ItemChanged(bfaa
9Participant(b
9Set(b
<Day(bea
9Unset(b
:pdate(bf
?d(aca
Cb
Da
Abb
Be
Bf
9|Updated(b
9ed(b
=a
>ai
>i
=f
>aa
;CounterUpdated(aa
;EarlyParticipant(bf
;LargeCap(ba
;SmallCap(ba
<tatusUpdated(ba
;Updated(af
:rChange(bf
9sAccts(a
2oIsThe&Master
2y(c
1idthdrawEarnings(a
2ldcardList(b
3lWithdraw(a
2n
3(aaaba
4baaaa
5ea
7dda
:a
3Matrix
3$(b
3dowPeriodClosed(ba
3n
4er
6(abaa
7b
8a
9amc
8iia
:ia
7cb
6Announced(e
6Index(a
6PaidEvent(bc
8yedTicketBought(bb
7icked(ebk
7rovidedHash
6Selected(baaa
8t(aab
6Withdrew(baa
6s(a
4ingCards(a
7Event(gba
7Hand(a
7NumbersEvent(ac
7OutcomeDeclared(e
7_Entry
7sClaimed(ba
2pedAccount(ba
2tdrawLenderProfit
7$ToHolder(bba
3hBeneficiary(b
4Draw
8PreForkChildDAO
4dawal(ba
5raw
8(<$>
9a
:a
:b
9b
:a
;a
<ffc
;b
;m
:ba
<a
=a
9cc
9i
8!Approved(bbf
9ll(b
;ETH
;Funds(a
;Reserves
9mountFromBankAccount(a
9nd;ToBankroll
8=(ba
8CashForHardwareReturn(a
9onfirm(aa
8DevFunds
@(a
9ividends(ba
AAndCoupons
KTo(b
8ETH
;(a
9arnings
9mergency
9nabled
9th(ba
;er
=(a
>b
?a
9vent(bbfaa
>c
8Failed(baf
9ee(a
;s
9oreign(b
9ull=FromBankAccount
:nds
=(bab
8ICOEarnings
8LeftToOwner(a
8Mint$s(ba
9onethaBuyerUtility
8OwnerFunds(a
8PaymentForTest(ba
9erformed(a
9otShare
9rize
:ofit(ba
>Funds(ab
8Request(ba
:serve(b
;ult(ada
8SharedExpense(bbaa
9pecialEth(a
?$(ba
9uccessful(d
8Tithes
9oAdmin(a
:Bankroll
:Holder(ba
:Investor(ba
:Member(ba
:Sponsor(ba
:ken(a
>ba
@b
?ba
=s(a
?ba
>ToBankroll(a
8Unclaimed
8Winnings(a
8_referral
8al
:(a
<ba
;b
<a
=a
=c
=j
<ba
>a
?a
<ka
:AfterGoalReached
;pproved(aafaj
:CreatedEvent(aaj
:Done(baa
:ETH(a
;nabled
:InterCrypto(a
:Normal(ba
:Premature(ba
:Quick(baa
:Started(ba
:$(a
?sAfterDeadLine
:VotedEvent(abaa
:ofFunds(a
:sOpen(b
8ed(a
:EthTo|(a
8l(ba
9RemainingPAT
8n(aa
;ba
:ba
;ba
8s(ba
6ew
8(ba
2zardReplacedEvent(bb
1olframAlpha
3k
4Created(ba
4Destroyed(ba
2n(baa
3derOwnershipAdd
2rkOrderCompleted(nac
9Started(n
4erStatement(c
3ldBit(bIIaacccc
8Event(bIIaacccc
5Record(cdb
5SafetySecurity$
5tvcoin
1p
1riteBible(kkkkc
6ond(abb
5drawStatus(<drawStatus_>
5rs(b
1thdraw
7AllToCreator
7To(ba
9Creator(a
0X2
13
1AP
1BL&_addr
2VHandler(ba
1DRAC
1FMSold
1GR!
1PA
3Assets
3$
1TVAirDropped
3Burned
3Network&!
2oken
1XXXXXXX01(ba
92(ga
93(a
94
95
96(bba
97(b
98(a
99
810(b
1andraSupply
2urmProxy&
4um?Melted
6Data&
6ProxyERC20
6$(b
1ferMoneyMarketing
9Team!
2inityUtility
0Y1_locked$?
>Release@
3release
12_locked$?
>Release@
3release
1EAR_THREE_SUPPLY
6WO_SUPPLY
2S
1ONDcoin
2O_UNIT
2U_BET_MINE_DOCUMENT_PATH
FSHA512
1RX
1UPIE_PER_ETH_PRE_SALE
>SALE
1esNo(dbcba
2ttaCrowdSale
1ouLose(ba
3TubemasterReq
3Win(baa
3rCustom$
0Z1CoinGenesis(b
1EROxBTCHaters(a
8Lovers(a
1IGICOIN
2L
1JFPrivate
3$Deposit
1RX_EXCHANGE_ADDR
4TOKEN_ADDR
:CONTRACT
1THTKN
6ADDR
2KCheckAccts(a
2R_ETH_extra_price
8initial_price
1enixSupply
2roCap
4DollarHomePage
4Ponzi
4XEth
2thrBankroll
1igZagSupply
2llerium$
2tronSupply
1odiacIndexToApproved(a
=Owner(a
2mbiewCreator
0_AIExchangeSupply
2_tokenSaleCompleted
2ddedToGenera~(ba
2pplica~(dac
<Removed(d
4roval(bb
<d
2wardedMissedBlockBonus(bbadaa
1BLOCKS_PER_READJUSTMENT
6_REWARD
2_sendToEthertoteDevelopment|
1CAP
2ROWDSALE_PAUSED
2_sendToToteLiquidator|
2allAborted(bd<bytes18>
5Cancelled(d
5Executed(bd
5Rejected(d<bytes15>
5Scheduled(d
2hallenge(daac
:Failed(a
:Succeeded(a
1D_sendToTeamEth&
2ataRegistered(d
2eposit(bba
9daa
1END_DATE
2RC20&
1FIFTY
3VEHUNDRED
5THOUSAND
1HOLDersPayRoll
2UNDRED
1InsufficientFunds(baa
1ListingRemoved(d
1MAXIMUM_TARGET
2INIMUM_TARGET
2ineId
1NT
2ewChallenge(bda
4ListingWhitelisted(d
1ONE
1RemovedFromGenera~(ba
3parameteriza~Proposal(bcad
3wardClaimed(baa
1START_DATE
7TARGET
3Cn&
2U$&
1TARGET_EPOCH_PER_PEDIOD
2HOUSAND
2ransfer(bb
<d
1Withdrawal(ba
<daa
1_DEBUG_BAL
2_coin!
3initialize(bbb
3proxyOwner
8Target
3setProxyOwner(b
3upgradeTo(b
<AndCall(bj
2abortFuse
3ddress0__
91__
92__
93__
94__
3pprove(bab
2callback(a
<d
;dc
=f
=j
2dig(a
2exchangerCallback(bba
2flooredLog10__(a
2getEth^(a
2initFuse
2price
4ocess(jb
2redeem
2setBeneficiary(b
@ForDas$sChange(b
5Deadline(a
5SecretaryGeneral(b
5$^(a
Aa
2targetExchangeAndSpendCallback(ba
@Callback(a
3hrow
3ransfer(bbaj
:FromToICAPWithReference(bdac
>WithReference(bbac
Pb
:ToICAPWithReference(dac
:WithReference(bac
Kb
1addEthereum!(ab
4Identities(ao
4Pools(bb
4ress(a
3ept$
3min
6(aa
3visorsSupply
2gent
2irdrop?
8Limit
8Supply
8Total
2llow
6BuyDirect
6Manual$sGenera~
6ance(bb
6ed!es(a
2mountRaised
2pi_PlaceBet
=(f
3plyRefund(a
4rovals(bb
7e(ba
:ba
2rbitra~Percent
2ssert(f
2uc~ID2itemID(a
8sArray(a
3thenticate(ca
5orizedMinters(b
1badgeTotalSupply
3lance
8Of(ad
;b
8s(b
3tch1_icosaleEnd@stamp
?Start@stamp
8rate
62_icosaleEnd@stamp
?Start@stamp
8rate
63_icosaleEnd@stamp
?Start@stamp
8rate
64_icosaleEnd@stamp
?Start@stamp
8rate
2eginOfICO
3st(bb
2onusRatio1
;2
6@1
:2
3unty
7Supply
2urn(a
6ba
5ForDeposit(ba
5$s(a
3y(b
4$s(b
2yteToString(d
5s32(c
1calFrozenAccountCoin(b
3p
4LevelEth
4OwO
2hangeApproveDate(a
7LockDate(a
7Name(c
7OslikiFounda~(b
7Rate(a
8eward(a
7Symbol(c
7Up^(a
3eckGrid(aaa
6Ledger(c
7ockUp(b
6Signed(daedd
2irculatingSupply
2lear(b
3oseBooks
2oldStorage
3mbieCode(eaaa
6neIndex(ae
4mission
;Target
5unitySupply
4pare(mIm
3nfig
6rmAndCheck(bd
Ad
4tractStatus
6ibuteInfo(b
6oller
3pyToBytes(aja
3unter
2reateArmy(ccaaa
8uc~(aaaab
7Companies(oo
=y(dd
7KT(c
7Medal(be
7Node(<TreeLib.Tree storage>
7Team(ca
6or
3owdSaleSupply
6salePaused
2urrentIcoPhaseBonus
@Minimum
8Owner
8Supply
1db
2eadline
3cimals
4ode(1
4reaseApproval(bba
3leteAllPackedRevisionBlockNumbers(r
7Company(d
7Request(bb
7_
3positEthereum(a
8;Credits(aa
3stroy&
3tails(a
8Length
3v
4FeesAddr
4$s
4team
2isallow
4patchEarnings
4tDay
2ona~Supply
9s
:(a
2umpToCompany
3st(b
1ecAdd(aaaaaa
3Double(aaa
3Mul(aaaa
3osysSupply
2ditPersonalNote(ca
3ucated$
2mit(jadddd
2ndBetBlock
4Date
4Edit
4OfICO
6PreICO
4@
4sAt
3velopes(cb
2raseNodeHierarchy(aod
3c20token
2scrowIndex
3timateSupply(aaaa
9Weight(aaaaa
2xtractCode(<uint48>
8Index(a
1fCancelDist
3onfig
2Dist
2Finish
2ees
3tch(a
2iliate
4lOrder(ba
3nalSupply
4ishNoCallback
4neyToWei(i
3rstLevelEth
6UnlockAmmount
2orumIdToAddr(c
4ward(bj
8Approve(bab
8;FromToICAPWithReference(bdacb
DWithReference(bbacb
3unda~Supply
6er
8_one
9two
2roze?
6n(b
7Account(b
7$s
2ulfillPayment(bbaab
9reapprovedPayment(bbab
3ndowner
3tureSupply
1geneSaleID2itemID(a
5rateNewHorseShoe(aab
<Saddle(aaab
8ion
5sForSaleArray(a
3tAllRevisionBlockNumbers(r
5sset
4=Factor(Zd
5lockIndex(aa
>AtYear(aaa
9sPerYear(a
4CurrentRound(a
4FirstIndex(ah
4Hash(bd
4Log$&(a
5uckyList(ae
4Maker(dedd
6ximum(Zd
5inimum(Zd
4^(a
4Random(a
5evisionBlockNumber(ra
4ShinyPurity(kk
5trengthDexterityVitality(aaa
4TeamSupport?(aa
5oken?(a
6urnamentSupport?(a
4UserSupportForTeamInTournament(aa
4Wager(b
6itingBlocks(a
5eightUntil(aa
4YearIndex(aaa
4rand09
2oal
1hackoin$
3sName(b
2olding
1icoPercent
4Supply
2ncreaseApproval(bba
6mentState
3it
5(a
6tt
5Game(addda
5ialDistribu~
8Supply
8ized
3ternal$
3verse
8(a
5stor!es(a
9Count
2s
3360thDay
3BoardMember(b
4uying
3Carousal(a
4ontract
4ycleValid(a
3Human
3Tradeable(a
6nsferAllowed(b
2temID2auc~ID(a
8geneSaleID(a
8saleID(a
5Length(a
1jAdd(aaaa
2Div(aaaa
2Mul(aaaa
2Sub(aaaa
1kitten&
7Owner
1leftSupply
3vel
2istedReserves(a
2ockAll?
5$(ba
5ed
3tterySupply
1mainsaleSupply
5t_EndPromo
7setBlockLimit(a
:CustomSeed(a
7updateOwner(b
7withdrawFromPool(a
3xPeriodSalesLimit
4Supply
4$SoldICO
=PreICO
4imumBuy
4totalSupply
2edalTotalSupply
3ntors
4u(d
3ssage(a
2igrate(a
3n?
4eableSupply
4imumBuy
;?
8Contribu~
8$s
4t(ba
5FromDeposit(ba
5_with_uri(bac
3xer
2ks(a
2ode
3ney
2ultiSendOwner
7ig|
2yDecimal
3LuckyNumber
3Symbol
3TokeName
3initialSupply
1name
2ear(a
3w|(b
3xtOwner
2once1
1oldConfig
2ne$InWei
2riginalBuy^
2wner
6Dist
6|
6s(a
4s$(ba
3o?
1packItemData(ba
3rseMsgData(j
3yChain(aba
4Royalty
4loadOffset(1
4out(b
2ercentSoldInICO
>PreICO
4formApprove(bab
8Generic(jb
8;FromToICAPWithReference(bdacb
DWithReference(bbacb
@ToICAPWithReference(dacb
@WithReference(bacb
2hase1Supply
62Supply
2ickWinner
2latformSupply
4yerRounds(aa
2reMcFly
4SaleSupply
4ValidatePurchase(ba
4mine
4pareAndSendReward
4saleEnd@stamp
8Start@stamp
9upply
3ice_token
<_ICO1
@2
@3
@4
=PRE
:n
;_ICO
?1
?2
?_first
@second
<PRE
4vateSale
4ze?
3ocessPurchase(ba
4ductDigest
4jectAddNew(ba
8CancelNew
9ommitNew(b
4mo
2urchase(ba
1raised
3nk(a
3te
4io
3wGetGlobalDelega~(b
7$Delega~(bb
4;(<ElcoinDb>bba
2eal=OnEther
>$(b
3balanceTree(Zd
3ceiveBuyLandForCandy(ba
;NextRank(b
;Rank(ba
8Eth
8MakePlant(baa
4overAccount(<ElcoinDb>bb
3deem(ba
3fund(a
3gister(sc
4ularDona~sTotal
3lease@
3moveOpera~(d
7$(ba
<From(ba
3questExists(bi
>Reverse(bb
3serve
4tric~
4ult
3turnFee(ba
3ward
7PoS
7Winners(ceg
4ireIdentities(oaai
2obot
3tateLeft(Zd
7Right(Zd
3und
6Tickets(aa
1safeFalse
5Send(ba
3leFinalized
5ID2itemID(a
5State
6upply
5sArray(a
6price
3veRequest(bbi
5Verifica~(bbi
2cheduleCall(<GroveLib.Index><CallConfig>
2econdLevelEth
7UnlockAmmount
3lling
5price
3ndEthereum(a
5$sManually(baa
3t1
50
51
42
43
44
45
46
47
48
49
4App(b
4BugFixVersion(cidi
6y^(a
4Cosigner!(b
4DepositAccount(b
4FeeStructure(aaa
4LagParams(cke
4NameTo!(bc
4Organiser(b
4PackedBlockNumber(ra
4Removal^(a
4Setting(ca
5tore(b
4Target(b
4Validator(b
4tingsApplied
4upNoCallback
2lotAddNew(b
5CancelNew
6ommitNew(b
2oftcap
3ld
5Outside
<PMZ
4veGame(aaa
2pan(bb
2tand(apdeeddf
4rt
6BetBlock
7lock
6Megabox(a
6NextCompeti~(ci4eeklidw
6@
4te
5us
3ore=Record(b
6Proof(c
3ringGas(c
7ToByte(c
2upply
2ymbol
1targetBlock
2eamSupply
3nuous$
3stItem(<RLP.RLPItem>
2hirdLevelEth
3resholdOne
:Two
2ime
2okePerEth
5n
6Allocator
6Left
6Metadata(a
6^
6s
7ToEthereum(a
3talBurned$s
6Dona~s
6EthCollected
9erDonated
6Fee
6MinedSupply
6Remaining
6Saved(b
7upply
<Left
6$Sold
;s
6XT
6_sold
6supply
2rader(b
4nsfer(<ElcoinDb>bba
:ba
;ba
=a
:ib
9Act(bba
<ion(ibe
9Ethereum(aaa
9Fee(bac
:rom(bba
@ba
=Investor(bba
=ToICAP(bda
CWithReference(bdac
=WithReference(bbac
9Ownership(b
9ToICAP(da
?WithReference(dac
;ken(ba
9WithReference(bac
?ward(<ElcoinDb>bba
3yEraseSingleNode(d
1unlockOther(b
7$(b
3minted$s
3safeSend(ba
2pdateAstroTypeForCode(<uint48>e
CIndexCode(ae
7CdIdxForCode(<uint48>a
8ompanies(oo
=y(dd
7IndexForIndexCode(aa
7Needed(aaa
8odeHeight(Zd
2serSafes(ba
1v
22
23
24
2alidate(1
2erify(b
4sion
1wallet
2eiToFinney(a
2ithdraw
9(ba
9AllFunds
9Ethereum(a
9To(aaaa
9Wei(a
9al
;(b
1xor(dd
1yearThreeClaimed
:Supply
6woClaimed
8Supply
0a
1Day
2eleteMessage(acc
2ropedThisWeek
1EthereumlotteryNet
1PurgeMessages
1SetEnd(a
4Launch(a
4Propor~(k
4Start(a
1VideoCost
1_document(a
2empresa(D
2incognita(a
2palavra(D
2viewCoinSupplyAndFunding(f
6SellOffersAtExchangeMacroansy(bf
1a(a
2a(j
1bandon(c
7edFundWithdrawal
9Ico=s
D(b
2buchen(a
2c
3$
2dicate
2i
3(d
3Signature
3lities(a
3oSold
4$
3s(b
2le;
2ort
5(b
5ByBroker
5Funding
5Game(a
:ba<EndReason>
5Match(a
5Sale
5@
6ransac~
5Update
3ut
5CurrentPack
5FactoryWorkers(a
5Worker(b
2rirDoacoes
2s(m
3Diff(aa
3MaxFee
4inFee
3oluteEndBlock
8Min@Lock
3tractENS
8Resolver
2x_token
1ccBonus$s
3Company
3ForBounty
6Team
5unda~
8er
3ICO
3Manager
4interOne
9Two
3Partner
4reICO
3Recive
3UserReward
3ept
6(a
8ba
8ca
7b
8a
8f
7c
8ak
7d
8d
61(aa
62(a
6Ac~(d
7dminWithdraw
8op~Offer(D
>Request(D
6BankDraft
8tched(gf
7et(a
;e
7id(a
;a
<d
:bdaaaadedde
9ForCollectible(aaa
<Punk(aa
<Sketch(aa
=tar(aa
7lok$Ownership
7uyNowOffer(a
9Offer(ia
6CeoOwnership
7hallenge(a
7lockmaker
7odeUpgradeProposal(b
8inSale
8luLocalNetworkOwnership
8ntactRequest(b
:ribu~(b
Cd
8oOwnership
8unterStack(dd
7reatureOwnership
6DiscipleVend(a
8vidends(a
Ai
7onate
6Ether(e
6Founda~(c
@;
7ulfillment(aa
6Game(bad
7ift$s(b
7uardianVend(a
6Help(a
7ybridiza~(aa
6Invite(j
6Kin$Ownership
7yc(b
6Management
@(c
<rship
7embership(bea
Dba
7ilestone(l
8ns(a
6NewOwner
9Reviewer
8xtOwner
6Offer(ka
;ForCity(aka
7nwership
7p
7rders_(a
7wner
;;
;ship
?(E
@c
?Offer
6PAIReceiptOwnership
7arityOwnership
8yment
=(b
?a
>u
=s
>(f
7rop(a
:osal(ab
@jh
<edMilestones(d
9vider(b
6Random(dj
7egistrar;(d<Deed>a
Iba
8quest(a
8turning(a
6SellOffer(i
7mart$Ownership
7upport
6TOS(bf
7ermsAndJoinDXF
7oken
;Ownership
;s(ba
?aaa
<FromUsers(ba
7radeDeal
9nsac~(a
8usteeOwnership
7xTask(a
6ValentineRequest(b
7estingTrusteeOwnership
6able!
6ed
8(b
8Deposits(b
8LegacyAugmint$s(b
8Passcodes_(d
8$
=s(b
>Values(b
6ingDeposits
9Payments
4ss(b
6Allowance(bb
6Control(bbe
=led
6Holder(b
6Manager
6OperatingBudget(a
6Policy
6oriesClaimedZeronium(l
8yData&
9OnLeaderboards(l
3ount(b
9ba
71!
72!
73!
7A
8ddress
>ForSponsee
H!
8uth(a
7B
8alance(b
>Count
>Publish(ccacca
>s
?(a
@b
8uyLimit
8y!(b
7C
8laimedReward
D(b
8ount
7Eth?(b
8xists(b
7FeeModifiers(b
8orIndex(a
8reeze(b
9omID(a
:zenStatus(b
7HasCurrentVote(b
7ID(b
8dFor!(b
9s(a
8nGoodStanding(d
9dex(a
9forma~(b
9putSdcs(ba
7Keys(b
7LastClear@(b
8evel(b
<s
=(b
=Addr
8oans(ba
9ck(b
;ed
=(b
;s(ba
;up(b
=@(b
7Modifiers(b
7Of
9(b
9N(b
9P(b
8utputSdcs(ba
7PubICOSale
:PreSale
7Registry
?Logic
8ounds(b
7S
8hares(b
=Out(b
7ToBleachNum(b
:oughtNum(b
9PayLevel(b
9SaleNum(b
:ummonNum(b
9WithdrawableValue(b
9kensPurchased(b
8xs(a
7WithUpdatePermissions
7_address
8data(b
7ed$Sales
7ing(bba
7s
8(a
9b
:a
:b
8=s(ab
9oughtZoAsset(b
8Count
8Holding(a
8LastClear@(b
9ist(a
<Length
8Statuses(q
8ToActiveSkin(b
;llocate
:Furnace(b
8Used(aa
8ZoLastRefresh@(b
8length
5tInputOutputSdcLogs(ba
6ToPayLevel(b
8SummonNum(b
3redita~s(dd
8ed
:(b
4ueAdvisors$s(ba
6Bonus$s(ba
6CouponsPerX$ETH
6DividendandCoupons(aa
>sPerX$ETH
6Ether
6Investors$s(ba
6Team$s
@(ba
3umulate
:Fee
:_to
:d
;=Of(a
;Fee
;GasFees
;Hours
;Input
;_from
4racy
2k(c
3Msg(ac
2quireFame(a
8reeEgg
7Wildcard(k
5si~sLockEndingAt
<Status
<$s
<|
2t
3ionAuthorisedBy
6Count
6VotedRate
6s(a
8d
4vate
8(b
:aaaff
;baaaff
9c
9f
:f
;f
8Account(b
9dSlot
:dress(bf
9llowance(bb
ARecord(bb
8=(b
9ounty(aa
8Campaign(ca
9onflictResolu~
;tract(b
9urrency(b
9ycle(a
8Destruc~
:vice(b
?d
8EmergencyProtectedMode
9xportFee(b
AChargeRecord(b
8FrozenAccount(b
8Gladiator(b
8Handbreak
8ICO(a
;Status
9mportFeeChargeRecord(b
9nTestMode
:voiced(b
8LastSale
9ineItem
8MainIco
<Sale
:sterKey(b
8NextRound
A(a
<Stage
8Oversight!(b
8PermissionsBot(dd
9roject(b
;vider(b
9urchase(a
8Refund
:venueShareIdentifier(c
DReference(a
9ound(a
8SafeMode
:le
<&(b
9econdPreIco
9tartBlockOf(b
:ore(cf
9ubRound(a
8$
=s(a
9ransfers
8UniqueSpinners
9ser(ba
8Whitelist
A(f
9ithdrawal
8Zone(<int32[]><int32[]>pp
8_admin_commission
9kill_switch
D(c
9reserve
8d
9(b
9Phases(a
9SalesTotalCount
9_
:time_
7ion
:Fee
:@
>(a
:s
;(b
5e
6=
=Of(b
6Call(b
8nvasCount
7ontracts(a
7rowdsalePhase1(a
D2(a
D3(a
6Eggs(a
7nd
6FundRaisedTier(a
6Game(a
:s
7oals(a
7roup(b
;s
6Hero(b
:Genome(b
6Presale(a
6Racers(a
6ShareholdersArray
G(a
GLength
7ignersCount
7tage
7upply
6Tier
8me
:sFrom(a
;To(a
7oken
7ranscoderSet(a
@TotalStake(ba
;fer
6Users(b
6ValueBonus
6_dividend(b
7payable
7users(a
7withdraw(b
?able
6d
6teICO(a
5ities(a
;k
7y(aa
8!
8Closed
9ore
:unt
8Funds
3ual=
=Of(b
6Cap
6GotETH(b
9$s(b
6^
;Divisor
B(a
;InCents
6Sales!
6TotalSupply
6_balance(b
1dIds
2^Day
7HalfDay
8our
7Multiple
7Week
2a
3pterEnabled
2d
3(<!SetLib.!Set storage>b
5SetLibrary.Set storage>a
Lb
Ld
4a
5a
5b
4b
5a
5j
5kee
5m
4c
5a
6aa
6ccb
5ccb
4d
5aju
5b
5d
4g
5a
4i
4mm
32Auc~(aaaaa
<baaaaa
4MarketPlace(aaa
@baaa
35NewStreetNames(ccccc
7Traits(cccccf
3ARA(b
4bility(cfeeeaa
4ccepted$(b
6ount(b
<a
=f
:Data(cj
:Minter(b
:Reader(b
6reditedInvestor(bllffaa
5~(aa<uint8[6]><uint8[6]><uint16[6]><uint8[6]>aa
<a
7vity(ec
;Account(bac
4d(baaacc
6iicca
:ca
5dWhitelist(b
6i~alBonusMember(b
6ress(ab
;b
<a
<c
;cb
;g
:AsMultiOwner(bc
:Descrip~(c
:InWhitelist(b
:Manual(b
<ppingProposal(b
:Referrals(gg
:ToAccount(bb
Ejjd
CFor(bjjbd
=dmin(b
Alist(b
<Blacklist(b
<Capped!es(b
<Master(b
<Uncapped!es(b
<WhiteList(b
Alist(b
Ga
:es(g
>c
<ToAdmins(g
>Whitelist(fg
Hg
Ia
5min(b
:c
:df
:f
8List(g
8Owners(bcc
8Whitelist(b
Bg
8istrator(b
@s(b
5visor(b
:s(baa
4ffiliate
<(bb
<s(gh
4ging@(a
<sForPool(ba
5reement(bdii
4irdrop(ba
:Participants(g
4lerter(b
5go(a
5ias(bc
5loca~(baae
=PartOne(aa
ATwo(a
7w;(b
8ance(bba
<ToRecieve$(g
8ed(b
:!(b
:&(b
:HIC!(b
:Lock(a
:To;(b
5t(baa
4mbassador(b
5endment(c
5ountBoughtAsMember(ba
4ngel(b
5imal(e
;b
<i
9Type(n
?e
9s(e
5n(c
4pp(cba
6roval(ba
9ed!(b
Bes(ge
;Battle(b
;&!(b
;Game(b
;|!(b
:r(b
=c
4rbitrator(b
5ea(aepacafi
5rayToWhitelist(g
5t(ca
6To(bca
4sset(b
8BountyManager(b
8Funding(b
?Manager(b
8Listing&(b
8Meetings(b
9ilestones(b
8News&(b
8PartOwner(db
9roposals(b
8ToNetwork(b
:OwnedAssets(b
:kenManager(b
8sOwner(b
4ttachmentToCollectible(aa
4uc~(aaaab
<bnnll
;iaaa
>ee
?i
;ta
<tn
5dit(af
9dad
<edd
8or(b
5thority(b
:za~(Obb
APbb
Ab
;ed(b
=!(b
=External(b
=Owners(b
<r(b
4ward(c
3BBFarm(b
4RA(b
4TCTransac~(aqb
4ackend(b
8rs(baa
5d$(b
5g(a
6AndGift(ab
=At@(aba
6Delayed(aa
5lance
:(ba
:s(gh
6lot(ddb
5nk(ba
7roll
5seStats(a<uint8[8]>
7Whitelist(g
5ttleLog(ibeeeeiii
<MonsterInfo(llllllliii
4eneficiary(b
@aaaaf
Ec
>Vestor(baaaa
5t(aa
9ba
4idToStack(<Bid><Bid[]>
Jf
4lack(b
8Account(b
8List(b
8list(b
>f
<!(b
<Item(b
5ock(b
:aaaa
8List(b
4oardScore(dda
5dyParts(p
5mb(eaee
5nus(a
:a
;aaaaaaaaa
9w3
8Batch(hg
8ForMultipleHolders(gh
;OneHolder(ba
8Period(llaeae
8ToBlock(aaa
:ken(ba
8es(a
5oking(ea
5t(b
5uncer(b
7ty(ba
9!es(g
9ForHunter(ba
9Reward(a
9;red$s(a
4ranchInEpisode(aa
7d(bc
4ulk(g
5rn|(b
7ingMan(ba
7upGame(b
5y$sRequest(bcaa
Fc
Dca
Ec
6er(b
:a
8Sig(cc
3CA(bcccccc
4ET4To(bii
66To(bii
4ZRLock(baaa
4aller(b
5mpaign(cccbbbc
5ncella~(b
:ed(da
<OrFilled(da
5pital
5r(a
7cbaaa
<f
6Init(biiil
6Product(ciiiiiaa
6d(aa
:b
8cacaab
8dbaaaa
8iiiiia
7ToEdi~(eceeaaa
5scade(ba
6hier(b
6tle(bclllllli
5tegory(ca
4b!(bA
?j
4ertAdmin(b
7ificate(cb
>AndBind2|(badd
=ion(<CertificateLibrary.Document storage>djd
Abdjd
@Document(bd
HInternal(bd
HToSelf(d
=or(b
:er(b
4hainyData(c
6racters(e
7ity(b
;ce
:Funda~(ccc
5unk1ToWhiteList
82ToWhiteList
83ToWhiteList
84ToWhiteList
85ToWhiteList
86ToWhiteList
4itiesPopula~(hh
4laim(bdcca
=ba
8ant(baf
6ssProperty(iei
5ient(ba
4oOwner(b
:s(g
5de(ca
7UpgradeProposal(bd
5in(a
7Allowance(bba
7=(ba
7s(a
5llaborator(ab
8teral(a
7ector(Wec
5mbat(nnd
6ment(Wc
;c
<bfa
7issionToPendingWithdrawals(i
8tteeVote(b
7unityGrant(ba
6panion(b
9y
:(cba
>f
5nfirma~(db
?Node(c
6nec~(bbde
:or(bif
6sumer(b
6tact(b
7ent(cca
7ract(b
=a
=b
>c
<cb
=j
<ddddbd
;!(b
;Role(dc
;To$FallbackWhiteList(b
;or(ba
8ibu~(ba
Baaa
<or(b
@aa
Baa
>Manually(baa
>s(go
8oller(b
5ordinator(b
5untries
9yCities(ah
Caa
;ode(a
6rse(a
:b
:cb
9s(cg
4reature(kee
6dits
:(b
5owdSale(a
<$s(ba
BMulti(gh
8sale&(b
4urrency(a
<c
=e
5stody(b
8mField(add
9Security$(ccbbcd
9erService(b
;ToRegistry(b
5tie(iaa
:nnnn
9ta
3DSource(cAa
<a
4ac(cclb
:cc
5ta(dddohhhh
8eccc
8gh
8h
8odddaaaa
7Point(afc
7Request(c
5ys(a
4eal(bbbaaaaca
Aaf
5dica~(ac
5fenceParts(p
5layedBonus(baa
6egate(b
=cba
=dba
<cclb
;Signed(beddcba
Fdba
5posit(a
;ba
:Creator(b
:Type(aaaaaf
:or
5scrip~(ca
6tina~(d
>Chain(ub
7royer(b
5veloper(b
4iceRoll(aa
5gitalArtSellingItem(an
5rect(bn
5scount(aa
<baa
6tribu~&(b
?Period
?Sources(g
<or(b
5vidend(a
7sionJurisdic~(oG
4oc(c
8c
6torTo(bccceeeeeeii
6ument(ccccaa
<dcc
?aa
5nate$!(b
5ubleChanceLine(aca
4ragon(baa
9Name(ac
5op
4ungeonNewFloor(aaa
:Rewards(aa
3EarlyAccess!(b
8Bird(ba
8Purchases
8list(g
6ned(a
4gg(liba
4lement(d
:ToArrayType(ele
:s(o
5igibleBurner(b
4missionProvider(ba
6tter(b
5ployee(bcJa
4ntity(b
6ry(b
9c
:cccb
=cb
9d
8In24WeekPeriods(bafa
:4WeekPeriods(bafa
:Days(baa
:Months(baa
:SecondsPeriods(bafaa
:Years(baa
4pisode
:Data(aaac
4th
6Teller(ba
6er
8BroAuc~(an
8ForOraclize
8ToSphere
4vent(aaecc
:c
9b
5idence(dad
?edd
4xcept!(b
9ions(g
6hange(b
<db
;Account(b
Bs(b
;Partner!AndRate(ba
BTarget!(b
;TestAccounts(b
;r(b
6luded(b
8sionFrom$Unlocks(g
5emptedAccount(b
5isitingContributors(gh
5p(ai
6erience(aa
>bh<int32[]>
6lora~ByShip(aaa
5tension(b
7rnalController(b
6ra=(ba
3FRA(b
4abric(b
5ce(cc
6tory(b
;cb
:ToCP(bb
5medStar(caa
4ee
4iatCurrencyRaised(a
7Transac~(cm
5eld(ca
5rstBuyers(gh
5veParticipants(bbbbb
4orgivedChar(c
6tune(c
5und(b
8a~(baaa
8er(b
<a
=a
:Accounts(ba
4reeBet(ba
7Mineral(bi
>Multi(gw
7Vineyard(b
7ze(b
9List(b
9r(b
5iend(b
5ost$s(baa
>Multi(ghh
4und(a
7Account(b
7er(b
;aa
7ingStage(daaaaeaaee
7raiser(b
7s
8(<AccountingLib.Bank storage>ba
:Bank>ba
3Game(b
9a
9c
:c
8c
9ao
9caa
8dd
7s(oo
5rdener(aa
4en(a
6eralMilestone(ccl
7sisCatGroup
4ift(be
9k
5ver(cclb
4lobalAdmin(b
9BlockValue=(a
9Constraint(bdb
4oldTransac~(cm
4pgKey(c
4rant(baf
5idMember(b
5oup(aaa
4uard(b
5ess(m
8WithRefund(m
3HarvestOpera~Endorsement(cfcc
5sh(ac
8b
8c
9a
8d
8o
7Type(c
<d
<ec
7es(a
9128
4ero(cba
:baa
4odlerStake(ba
5lder(b
;a
<a
<ea
9!(db
5rseIndex(d
5useCredits(ba
8Stake
4uman(ce
3ICOEndDate(a
4co!(b
4dentities(oo
:y(b
4n(b
5BountyProgramMap(b
5FutureExpans~Map(b
5Team=Map(b
5itialInvestor(b
9tor(b
5stitu~(bc
6uranceProduct(aaaccd
Ec
5terest(a
8nal=(a
;Message(e
5ventory(dccccaa
7st
9ment(ba
9or
;(b
=a
<def
;AtID(a
;=(ba
<onusInPercent(be
B$s(ba
;Grant(baaa
;List(ba
@g
;ToWhiteList(b
Blist(b
;s(gh
<Value(a
4ssue(a
8Bounty(ca
8r(b
4tem(aa
:aa
:b
9ca
8b
8ca
9babn
9c
8d
9b
8qkkf
7s(hhb
3Jurisdic~(oG
3Kitty(aaM
4yc!(bf
6VerifiedInvestor(b
3Lambo(caf
5stTwoAmbassadors(bb
5yer(bacc
;d
4egitDev!(b
8Race!(b
4ifeEvent(ccc
5mit!(b
8a~(a
8ed|!(b
5ne(aeaa
5quidity
5stToWhiteList(g
7ener(b
4oanProduct(iiiaif
7ToPortfolio(aa
5ca~(a
6k(a
8b
9aa
8g
7!(ba
7Product(iiif
7Step(ea
7$Alloca~(ba
7UpData(bhh
7Value(ba
7edAccount(baa
:mount(a
8r(b
5gicVersion(ab
5otbox(ba
5ttery(ciii
?iii
5vers(dcc
3MARKETPLACE(b
4ake(a
8cbaa
<f
5nager(b
6ualContributor(ba
6y(g
7AuthorizeToWhitelist(g
7ToAlloca~List(gh
9Blacklist(g
9PresaleWhitelist(g
9Whitelist(g
Dka
7Users(g
5rket(<bytes6>
:bbb
9To
7ing(ddm
5ss!ToWhitelist(g
6terTo(bccceeeeeeii
5tch(aa
9cccfeea
4eByRC
9(b
5ToAllGames
7Game(a
5aningToCovfefe(ac
5dalBurned(k
5leeParts(p
5mber(b
;a
<fc
;b
;c
;d
:cccaccac
9Acct(b
9ToBS(b
;Group(ba
9s(gh
6ory(cj
9ImageSlice(aj
5rkleTreeRoot(ejj
5ssage(ac
;c
<eee
:ToQueue(cca
5taProject(b
7dataObject(c
6er(icc
4ileagePoint(ba
7stone(aa
?a
@acc
=ccalbbb
5ner$s(igw
?lg3
6ing$(ba
7on(keeeeeef
6orOwner(b
6t&(b
7able(b
7er(b
7ingFactory(b
6utes(a
4od(b
6erator(b
6ule(bjaa
5neyTo&
6sterClassBasic(ieaaeeeeee
?Extend(ieeeeeeee
:IdMapping(bl
:Obj(ibc
>laibcc
5od(c
5ves(ay
4ultiple!esToCapped!es(g
FUncapped!es(g
FWhitelist(g
<llowed!es(g
;&s(ddddgd
;Participants(g
<ublicSalesSpecialUser(g
;Records(h
;Tier1Members(g
?2Members(g
<oWhitelist(g
5tagenFace(aa
;ight(aa
3NOSPackage(aa
4acToNLF(a
9etf(a
5mespaceMember(cb
4etworkMember(bfffd
5wAccount(baa
>cbaaa
6Bet?(a
7oard(dc
7ranchInEpisode(aa
6Certificate(add
7laim(caacc
7olor(c
8mpany(caaaa
6Dona~(b
9key(b
6Editor(b
6Game(b
;c0
7roup(daa
6Insurance(daiid
6Owner(b
6PotatoCoinsForSale(a
7roxy(b
6Report(c
8serv&(b
6SampleType(ca
7pinner(a
7tage(aaaaa
9keDiceGame(a
9te(cU
=h
8reetName(c
<Type(c
6Ticket(baaf
7rait(cf
6Url(c
7ser(b
6s(c
4oFee!(gg
5dalblockData(c
6e(<CommonLibrary.Data storage>ce
8b
8ce
8db
7!(<CommonLibrary.Data storage>ab
?ab
7Group(<CommonLibrary.Data storage>c
=c
5te(dc
:c
9rc
;c
8rc
4umber(a
3OffChain!es(g
;Contribu~(baac
;RaisedContribu~(baa
4ldInvestment(baa
6Mayors(hhg
6Nickname(bc
6Presidents(hg
6Withdrawals(gh
4nCount
5Hold(a
5eGame(ca
6UserIntoWhiteList(b
5s(k
4penMakeOrder(bba
6rator(b
5~(cba
9Chain(acaadb<int[]>
EB
4rUpdateAccounts(ghh
5acle(b
;c
9s(<bytes4[]>g
;g
5der(aabba
9dbaa
8BasicFields(abaad
5g(bcccce
7c
8cc
6Certificate(c
5igin(d
4versight(b
4wed(ba
5ner
8(Tbfj
9b
:aa
:b
;b
82(b
8Account(b
9ddress(b
8=
8FromRecovery(bb
Gb
8Nota~s(c
8s(ghh
9hipChest(ba
3PVPContender(ba
4ack(b
8g<uint24[]><uint24[]>k
9k
7age(c
<b
7sToNextPremiumSale(w
:StandardSale(w
5rtOwner(b
7icipant(b
@b
Aa
@e
?g
@h
>s(g
7ner(b
:Sale|(b
5ssword(ccc
5yTable(kkkkkkkkk
6ee(b
:a
8s(gh
7r(b
6ment(aa
;ba
;cbcaa
;ee
6out(a
4eriod(a
;aa
6mission(b
?d
6son(dda
9alCap(ba
>s(ga
;Info(bccccccc
5t(aaaaaa
4hase(a
:aa
<a
8s(aafaf
5rase(c
4icture(cdcb
<iiiiccc
5ece(ccdb
8AndHash(cccb
5xelPayable(aaaaa
4laceOrderItem(abaa
6tform(d
6yer
9(b
;a
<a
:c
;baa
9Data(aacalll
9Order(baaaaaa
9ToBoard(dd
5ugin(b
4okemon(cba
:Details(caa
5licyRule(sbdaa
5ol(aaa
8b
5st(d
5werSource(baa
4reIcoMembers(g
6SaleBuyer(ba
:EndDate(a
:Purchase$s(ba
:$s(ba
@Multi(gh
:|(b
6commitment(ba
Ca
Cf
@Adjustment(ba
8ndi~(b
6mineAlloca~(ba
:r(bbaa
6sale(ba
=a
>e
:?(ba
:Contributors(g
:Holder(b
:Investor(baa
:Order(ba
:$s(gha
:|s(gh
;hitelist(ba
5ice(a
8Feed(aaaaj
8Tier(a
6vateFund(ba
:Investor(ba
:Presale$s(baa
;urchaser(baaa
:Sale(a
>Buyer(ba
>EndDate(a
>$s(ba
DMulti(gh
7ilege!(b
6ze(kbaaa
5oduct(aca
;bccac
;caccc
:ByRegulator(cacccc
:Endorsement(camfcc
6ject(a
;b
;ccbllb
:Manager(b
6mille(aa
7o(dabaa
8~alCompany(caaa
6of(bd
6perty(cclll
<d
;ForUser(db
7osal(ad
<kac
;Vote(ab
;s(o
6to(keeeeeeef
8s(NpppppppG
6vider(b
6xy(b
4ubKeyHash(rejj
6licFundingWhiteList(g
9Key(b
=db
9Sale|(b
=sSpecialUser(b
5rchaser(b
3Ques~(caac
5oter(b
3RC(b
4NTBContribu~(ba
4RA(b
4ace(eee
5ndomClass(i
9Fight2Death(a
Eba
6k(aaac
5te(be
4eceived$(bca
:rs(gh
6ipient(b
>a
6ord(a
:dc
<ae
;df
5ferenceParentWineryOpera~(cacbm
QByRegulator(ccaccm
8ral(b
=b
;Deposit(ba
;Of(bb
9edInvestor(cb
:r(d
6iller(b
6und(ae
9Transac~(a4
5gion(kac
7strar(b
:yIntoNameIndex(b
?OwnerIndex(bb
?TagsIndex(b
5inforcedWhitelist(g
5leaseAgent(b
;uc~(aaaaa
5maining$s
6oveCountry(ccf
5quest(acc
:er(b
5seller(b
7rve(bef
<f
<if
:s(a
6tricedAccount(ba
5venueShareCurrency(bc
5ward(a
;ab
9Percentage(a
9ToPendingWithdrawals(i
;ken(ba
9forNewContributor(bac
4obot(b
5le(bc
7s(p
5oms(ca
5und(aaa
3SERAPHIM(b
4afely(aa
5le(<SaleListLib.SaleList storage>ba
8b
9a
7Agent(b
7Owner(b
7|(b
7r(b
4core(c
4eed(a
5gmenta~(baaa
5lctFight2Death(aaa
Dbaaaa
6l$sRequest(bcaa
Gc
Ecaa
Fc
7erSig(cc
5rver(ca
7ice(da
:Reward(a
5ttings(b
=aaebb
=baaaa
>b
4hare(b
:a
;a
8holder(ba
>!(b
4ideService(ba
5g(bd
6nature(a
>qj
=cc
7er(b
9s(g
5ngle!ToWhitelist(b
:pproved!(be
4kip^(a
4mallInvestor(baa
4ocial(gh
5lver(b
5meCWCsTo(ba
7DETsTo(ba
7Gas
7OfManyLine(acac
7UETsTo(ba
5undEffect(ah
@p
4pace(aaj
<aaaacca
8s(hhj
5ecial(aaa
;bk
:Account(b
:BonusCondi~s(baa
:FeeTake(baa
:Offer(be
:RateCondi~s(ba
6ll(keeef
6nder(b
8ingRequest(b
5inner(cabaeee
5onsor(b
4taff(b
9ca
8Whitelist(g
6ge(aa
;a
<a
=aa
<lla
8?(a
8Crowdsale(b
6ke(a
8AD(ab
5ock(caaae
6neToBoard(aee
6rage(c
<b
5ring(cc
5udent(cccd
:s(cccoa
4ubMilestone(kcclf
6Owner(b
6jectMatter(c
6scrip~Bonus(b
5perAdmin(b
6plier(bf
8y(a
7ort(b
:ed$(b
Caaa
5rplus
4weeper(bb
4ystem(b
3TRA(b
4ag(ac
6ByModuleType(eo
4eam(c
71(lllk
72(lllk
7!(baa
8ndAdvisorsAlloca~(ba
AyMembers(g
7Grant(baaa
7@Mints(baaf
7toBoard(kbe
5nParticipants(bbbbbbbbbb
6der(aaba
5ther(bcaic
4hing(aaaad
5reeWayLine(aca
4ier(aa
71Member(b
72Member(b
7RateAnd$s(aaa
7s(khh
5me
7ToSeal(a
5p(bda
4oAccesslist(b
7tiveGroup(b
6dmin(bf
6lloca~(a
?List(ba
6ngelExperienceLevel(la
6pproveList(b
<d!(b
5=s(ba
7ttle(l
6lackList(b
:list(b
6ond(5ba
:6ba
8usSeed
6uyList(aa
5Cart(ac
7tegorie1(b
>2(b
6ommunitySaleWhitelist(g
7ntribu~
5Excep~(b
5GoldList(b
5KYCList(b
6ycTeam(b
5Lists(bff
>ff
5ManagementWhitelist(b
6emeList(c
5Ownerlist(b
:ship(b
5Pool
6reSaleWhitelist(b
8saleWhitelist(b
7ivateSaleWhitelist(g
<Whitelist(b
9ilegedList(b
8zePool
6ublicSaleWhitelist(g
;Whitelist(b
5RakePool
6eferrals(bb
7serve
5SellList(aaa"

end Listing
end EvmFlow
