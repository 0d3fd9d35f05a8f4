/-!
# Known signatures, part B
-/

namespace EvmFlow
namespace Listing

/-- Known signatures from `ICOaddress` to `Send`. -/
def partB : String :=
"0ICOaddress(b
5visor1
:2
4mountBonusLimits(a
>MultipierInPercent(a
3balances(b
4onusStages(a
3collected
5ntributors
8oller
3deadline
5positors(b
3end
6@
6time
3fundsReceiver!
3mint
7(ba
8n
3open
4ver@Stamp
3paused
4rice
3start
8@
8time
6te
3tokensSold
5talSupply
3week1End
72End
73End
74End
7Bonus(a
5i
2loudSec!
1D
2LE
2X
2ice
1EFBR14
2OEnded
3Rate&
3Started
1FSActive(baa
3=s(b
1Hate0xBTC(c
5Eos(c
1LFManager
:Candidate
CKeyHash
2LIQUID_TOKENS
2ove0xBTC(c
1MDEXadminWithdraw(baba
5deposit
<$(ba
5invalidateOrdersBefore(ba
5setAdmin(bf
8InactivityReleasePeriod(a
8Owner(b
5trade(z<address[4]>
5withdraw$(ba
2EIM
2PACT_REGISTRY_ADDRESS
1NACTIVITY
2CENT_FUND_NON_VESTING
<VESTING
3REASE_RATE
5MENT_RATE
2D
3I
3$
2FLATION
3OCORP_DONATION
2ITIAL
7GASFORORACLIZE
7_AC_SUPPLY
9IRDROP
8BALANCE
9ONUSLIST_TOKENS
8CARD_PRICE
9OINS_FOR_VIPPLACEMENT
8EARLYBIRD_TOKENS
9MISSION_FACTOR
9NDTIME
9XCHANGEABLE_TOKENS_VOLUME
8FOUNDER_SUPPLY
9UND_BALANCE
8GLOBAL_DAILY_SUPPLY
8POLL_NONCE
9RICE
=_INCREMENT
8RATE
8SAPLLY
9EED_FARMING_AMOUNT
9TAGE
;RTTIME
9UBSIDY
:PPLLY
=Y
8TAP
9OKENS_PER_ETHER
=_FROM_COMPAIN
>SUPPLY
:TAL_SUPPLY
8VALUE
9UP_TOKEN_SUPPLY
8mulFactor
4_COIN
5DATE
5SUPPLY
5TOKENS
2TERFACE
9_SIGNATURE_ERC165
G721
5VAL
3REPID_MAX_PRICE
9PRICE_INCREMENT
?THRESHOLD
9SHIP_LIMIT
>PRICE
9VOUCHER_LIMIT
APRICE
2VERSE_BASIS_POINT
4STMENT_CAP_ICO_PHASE_ONE_POUNDS
;FUND_TOKENS_SUPPLY
;USER1
?2
6OR1
82
8S_TOKENS_RESERVED
8_LOCK_DURATION
9TOKENS
6_AMOUNT
1OU
3(cce
3Supply
2V
1PFSHash
4hash(c
1QB
2T_CONTRACT_ADDRESS
4DECIMALS
<FACTOR
4FUNDATION_ADDRESS
1RC_PER_ETH_PRE_SALE
<SALE
1SC
2SUE_METHOD
2_CND_CONTRACT_MAGIC_NUMBER
3MAINNET
3SIGNATORY(b
9URER(b
3TIER_CONTRACT_MAGIC_NUMBER
1TSEnd@
2TMultisig
1WTfund
1XTPayment
1coAbandoned(c
4ddress
:Set(b
3Bonus(a
3Cancelled
5p
6Changed(ba
4lose@
8d
9Manually
4ompleted
5ntract
8ibuted(baa
3DiscountLevelsChanged(baa
;PercentagesChanged(beee
3EndDate
6ed
3Finished
;(a
3Message
3Paused
4hase?sChanged(aaaa
4rice
3Resumed
4unnedManually
3StagePeriod(a
8Started(a
6rtDate
8@
8ed
:(a
6tus
5oppedManually
4uccess
5pply
3@RangeChanged(baa
4okens
5talSupply
3|
3_rejected(c
3end
6s
3start
1dentityCreated(bbbb
1kuraApproval(bba
5Burn(ba
5Mint(ba
5;(bba
=Fee(bbba
=$(bba
1lumXX$
1mpactRegistry(ba
3eachmentAccepted(b
;Proposed(bcab
;Support(ba
3ort(baa
1n(b
2activityHolderReset=(b
2cMainSupply(a
3PreSupply(a
5ivateSupply(a
3entCoffee$
6$
3hainICO(ga
3orrectFee(ba
3rease
8(ba
8Cap(a
8Funding(aa
8HardCap(a
8InvestedWei?(aa
8PreSaleSupply(a
8SoldSaleSupply(a
9upply(a
@aa
2demnisa~_1
>2
>3
>4
>5
4pendentSellerJoined(bab
4xOfCurrentDraw
5ToApproved(a
7Owner(a
3ividuality$
BRoot(b
2finitiEstate
6xSupply
3o
4rmRebuy(a
;To(ab
6a~
4s
2itAssignCTC
:OK
4=From961e593b36920a767dad75f9fda07723231d9b77(ba
4Cancel(b
5hallenge!(<address[10]><uint256[10]>
Eg
4Host=(ba
4IcoController(b
4PeculiumAdress(b
4Quantity(Sc
4UpgradeCard
4alPos
4ialBlockCount
7CoinOffering$
7DateChange(aa
7Owner!
7^Disable
<Enable
7RateChange(a
Ca
Da
7Settings
8upply
7$(cba
<sAllocated(a
7_Supply
7ise(b
8ze
:d
;(a
=a
<b
=a
;Manager(b
;Tier(aaaaa
Ab
<oken(b
6te(ba
;aaf
8Cars
9ompanies
9ryptoGamers
8Game
8Makes
8Planets
8Teams
8WhaleCard
2jected(baa
2sertProject(ccbccb
3tantLottery(bbfb
3ufficientFee(ba
=unds
A(baa
4ranceAgent
2teger(a
4lliShareEco
4n~ToFund(ba
4rCryptoNode
5estFreeLending(bbaa
8_Rate
5faceId_ERC165
:mplementerSet(bdb
9Signature_ERC721Op~al
5mediary
:teVault(ba
5valBytecodes
2vEnterpriseAddr
3alidCaller(b
8oinUsage(c
7PullRequest(a
7State(j
3est
6(ba
8faaa
8iia
6Add
9Event(ba
6Cancel
<Event(ba
7lose(aaa
6Fund
6Withdraw
6ed(aba
<a
9ba
;a
<c
<n
;n
8OtherCrypto(baa
6ment
:(ba
=a
<ba
:Event(baa
:Failed
:Made(baacj
:PolicyChanged(f
Ifb
Jfbb
:Succeeded(a
:sCount
6orBonusGet(g
8Changed(bb
8Part
8Refunded(ba
8Sum
8WhiteListAddi~(b
8s
9(a
:b
9Qty
3iteAccepted(bb
6Created(b
6rToID(b
3oke;(bha
6d(bbfa
9fa
1otaGold$(b
1sActive
3irDropEnabled
5drop
3uthority!(b
2Blocked(b
2CheckNeeded(aa
3ityNameExist(d
2DistribRunningFalg_
9Started
2Enable
3thereum
2FreezedAccount(b
4ozen
2Genesis!(b
2ICONotStarted
5Over
5running
5started
3nitAssign
2MultiFreeze(bgf
2OnWhitelist(b
3wner(b
2Paused
4youtReady__InfoFunc~(d
3layer
8(b
3reICO
5SaleEnabled
5mature(a
2Release$
2SaleEnabled
2Tradeable
5nsferFromOld&Done
:TempFromOld&Done
2Validated(c
2White(b
3ildCardCreatedForCategory(c
2suance(a
9ba
;a
<a
4e(a
7ba
9a
6ba
8a
8cc
7ba
9c
8bb
6dab
6lba
5Accepted(a
6ssigneeLoaded(dc
5Offer(b
5Rejected(a
5StateLoaded(dc
5$(abaa
;ba
:s(baa
;ToInvestors(ba
5d(baa
7ib
5r(bb<Standard$>
6;red(ab
2trium$(b
1tdFund
2emBought(baaaa
4Create^
:d(ba
4Info(a
4List(a
4Received
4Update(a
4s(a
2lyCoin
2ube
0J8T_DECIMALS_FACTOR
1ACKPOT_CHANCE
8SIZE
8TOKENS_PERCENT
8WALLET
9INNER
4_DIST
2NUS
1BXPERETH
1OCKEY_LIMIT
2INT_PER_ETH
2Y
1P_sum
3winner
7ingHash
1ULIAN_ADDRESS
8LLOCATION
2ST
4ed
1ackPot
4pot
7(baaa
7?
8warded(aba
7Hits
7Payoff(aab
;ut
8eriods
7@r
7Winner
8on(ba
2deCoinMining(ba
2mCoin
1eopardy
1iggsR
2nglesOpened(bba
4zhi&
1ohanNygren
3nsonville
2inTheFray(b
4ed(baa
4tICOBonus?
8&!
5$
2ustNum
1udged(afbd
5ment(aaa
2llarTeamAdr(a
2mp
4(baa
2ryMemberAdded(cb
0KEBABER_TO_MAKE_1KEBAB
1IK_ADDRESS
2N_FOUNDATION_ADDRESS
4PER_USD
8WEI
2TTY_BURN_LIMIT
1JCPerEthereum
1NC
3=
2OWLEDGE_TO_GET_1FRANKLIN
1OINCONEKT
1POPIO_CONTRACT_ADDRESS
4_ARENA_CONTRACT_ADDRESS
5CELEB_CONTRACT_ADDRESS
5ITEM_CONTRACT_ADDRESS
1RYPSTRONG
1TApprovals(a
2ToOwner(a
2s(a
1WHForGas
3$!
2RT
1YC
3(b
5f
31(b
32(b
3!(bf
4pprove(g
3Done(b
3Limit(b
8Value
3Participants(b
3Valid(b
3_ETH_LMT
4THRESHOLD
4USD_LMT
4VERIFICATION_END_TIME
1_INITIAL_SUPPLY
1anzhang
2rdashian
1eberuntunganAcak
2yReplaced(bb
1ickCommitteeFromMapAndArrayEvent(b
=VoteEvent(bb
2ll
4(a
4&
4SwitchEngaged(b
4able
4edTillNow
7okens(b
5r
3os(b
2ng$
4domCreatedEvent(a
7Factory
2ssBTC
2ttenRegistry
6Talked(c
6sDroped(aa
4yTrained(aaaM
1othWin(aabaaaaa
1raken^Ticker
2ypticion
1yc(bf
3Verified(b
=f
0LALA$!
2MBO_TYPE
3DEN_DECIMALS
2ND_ADDRESS
2RGE_PURCHASE
>_BONUS
2TER_AUCTIONS_INITIAL_PERCENTAGE
3PTransac~(aaa
2UNCH_DATE
2_wallet
1BC
1C
1EDTEAM_TOKENS
3_MULTISIG
2GAL
5_EXPENSES_1_TOKENS
?2_TOKENS
?ADDR
C_1
D2
?TOKENS
2XIn&
3$
1IABILITIES
2MIT
5S_END_DATE
5_PER_USER
7ROMO
6STAR4
:5
6TRANSFERS_PERIOD
2NK
2QUIDATION_RESERVE_RATIO
<TOKENS_PER_ETH
6_ALLOCATION_PPM
7TOKENS
1KCExchangeRate
3TotalSupply
1MOSupply
1N2
2CH
1OCKAMOUNT
:1
:2
:3
:4
4ED(a
6_1Y_DATE
72Y_DATE
7ADDRESS
8LLOCATION_PPM
7BOARD_BONUS_TOKENS
7TIME
4OUT_PERIOD
4PERIOD
4TC
4UP_3M_ICO_TIMESTAMP
76M_ICO_TIMESTAMP
7WALLET
4_END
8(a
5MAX
5RELASE_TIME
5SLOTS
6TAKE
8RT
:_TIME
5TIME
2G(ca
32_E
3_BetLost(ba
>a
?d
7Won(baa
>d
4&Resumed
<Stopped
5urrentPercent(a
4EmergencyAutoStop
=WithdrawalFailed(b
GProposed
GSucceeded(ba
GVote(bf
4FailedDraw(ba
:Send(ba
4GasLimitChanged(aa
4House!Changed(bb
4IncreaseInvestment(a
6vestorCapitalUpdate(bm
<Entrance(ba
Ga
=xit(ba
4MaxInvestorsChanged(a
4NewBet(ba
=ad
4Owner!Changed(bb
9Deposit(a
9Withdraw(ba
4Payout(ba
5roofFailure(db
4SpinExecuted(dbaa
Ea
8sContainerInfo(dba
5uccessfulDraw(ba
>Send(ba
Ea
4ValueIsTooBig
4ZeroSend
4newGasLimit(a
7SpinsContainer(dbaa
2NG
2SER_LOCK_TIME
2TTERY_FUND_ADDRESS
=SHARE
2VEYOUFOREVER
2WER_PRICE_RESET_PERCENTAGE
3_RANGE_RATE
1SEscrow&
2TRatePerWEI
1TO
1UC
2NVault(b
1ZLPrivate
3$Deposit
1abelSold(b
2mbo
5(a
2ndClaim&Set(b
9Executed(baj
2rbaoui
3geCapStart@Changed(a
2st=Withdrawn(b
4ContributorChanged(b
4Exec
8uted
6tract@
4IsMe(aa
4Msg
4ProposalID
4Result(bea
5isk^
4$Id
4Validated
4_block_number_and_blockhash_used
2ter(b
4stRecharge@
2unch
6&(bf
6Partners!
?mount
6Rocket(iiiiii
<Event(bi<int64><int64>
4dromat(aa
1eader(cbd
6Hash
6Message
3seBill(aac
5dBlock(aaaaddddb
2dger
6RandomProofVerifier
6Updated(bb
2gendsCrowdfund(baa
7$(bbaf
2mon&
5sDroppedToTheWorld
6RemainingToDrop
2nders(b
3t(ab
2scovexAddr
2velUp(ai
8bai
4rage
8s
9(g
1ibidocoin
2feEvent(ccc
2ghtningEthereum
2ke(dda
2mit
5Bottom
5Ether
5OfMinutes
5PerUserEBC
5Reached(ba
5Set(aaaaa
5Top
2nglongCatIndexToApproved(a
BOwner(a
2quidate(baaaa
2st
4!(ba
>a
5llSince(a
4NotValSince(a
:idated
4PairsForReserve(bbbf
4ReservePairs(bbbf
4ValSince(a
7idated
4ed_NotValidated(ac
7Validated(ac
4ingBought(Daab
>aaab
>dbaaab
7Cancelled(Da
Aaa
Ada
8ontractEntity
8reated(Daaab
?aaaab
?dbaaaab
2ttleCactus
6EthereumDoubler
2ve(a
4Auc~Event(baaaa
1oad(baa
4edRefund(ba
4ing
3nRepaid(bbac
6quest(baaaa
2ca~
3k
4(abbaa
6k
5ba
7a
6baa
5j
4Account(b
4ChainFundDeposit
5laimed(ba
5ontractOwner(b
5redits(baa
4Date(aa
4EDUTeam
5vent(baa
4Funds(ba
4InExpiry
6ventory
4MechanismByOwner(ba
4Open(b
4Removed(b
4SAToE
4able
4ed
6(b
8a
7ddd
6AccountThresholdUsdUpdated(aa
6=(ba
6DayAdded(baa
9Removed(baa
6Funds(ba
6MANA(a
6$(b
6Unsold$s(ab
7p$sWithdrawn
6Voting$s
4up
6List(b
6$sWithdrawn
2g(a
4ba
4c
5a
6a
4e
31(bdaccaA
<a
=a
5nc
4_fnc(bdacc<func~>aAa
Ka
32(bdacccaA
=a
>a
5fc
4_fnc(bdaccc<func~>aAa
La
3Accepted(a
7ss(b
;dbsf
9Changed(bbdbee
9PolicyChanged(bbb
6ount?(ba
:Modified(bbdddd
:Registered(bbdddd
4dd$PairWhitelist(bb
6User(b
6ress(b
:CapExceeded(bac
:$CapCalculated(aaac
Oc
Change(ac
4greementAccepted(b
=mended(bc
4irDrop(ba
4llocate(baa
;Ticket(abc
7wedFrom!(bf
:To!(bf
4nswerReveal(dbddaa
4pproval(bba
4uthCreate(ba
3B(d
4THFounda~|Changed(b
4alance(a
:Change(baa
4eerBought(ab
7Claimed(ba
7Redeemed(bda
5neficiaryPaid(b
>Set(bb
5t(baa
:a
8faaf
7dbaaaa
6Start(a
4id(bbaaa
6Accepted(abadad
?baa
?dbdbda
6Canceled(a
?d
7ompleted(add
@ddd
8nfirmed(dbd
6Expired(a
>d
6Failed(baa
7inal(baaa
6Made(baa
6Opened(abadaaad
6Removed(ba
8turned(baa
8wardClaimed(aba
6Withdrawn(baa
4onusLOTRedemp~(baa
5okTicket(abc
6nReleased(baaa
5ught(a
:baan
6nty(bac
;nc
9256(bac
4roker(b
4ump(ddbbbnnl
5rn(ba
5y(aba
7ba
9a
:a
8baa
6Coins(bac
6Enabled(f
6ForFiat(ba
9Investor(bac
6$s(baa
?c
3CampaignAdded(abi<uint96>kka
;Created(b
5ncel&Proposal(bba
9Delivery(bc
9Reserva~(ba
9TemplateProposal(bba
4ertifica~DbRegistered(b
BUnRegistered(b
AocumentAdded(bd
HRemoved(bd
:erAdded(b
<DbChanged(bb
<Removed(b
4hangeAccount!ForSponsee!(b
9IsPayableEnabled
I(f
9MultiSig!(b
9PC|(b
9Sponsee!(b
9@stamp(baa
5iSale(ba
4laim(aba
9ba
;a
<a
9dba
8HalvingSubsidy(baaa
8Refund(ba
:ward(ba
8$s(ba
5osed
4oinsEmited(ba
5llect(a
;baa
:?(a
:Eth(aa
5mmit(abd
6pany$s;red(ba
5ntractCreated(ba
;OwnershipChangeCompleted(b
JInitiated(b
8ibute(ba
<ion(aa
@baa
Caa
Cee
Abaaaa
@eba
?s(baf
<orsPayout(ba
4ratePurchase(bai
5eate(baa
;baa
9EVN(ba
9ICO(bba
9NET(ba
9$(ba
9VIBEX(ba
5owdsaleEnd(f
<Finalized(f
<Started
4ustomSale(aaaa
9erVerified(bbe
3Debug(c
5creaseCap(a
5lete(ba
6iverEVN(ba
5posit(b
<a
:ForDividend(aa
:Received(b
:ed(ba
5stroy(a
4isbursement(ba
5vidend(baa
4ona~(baa
=c
3EggAcquisi~(ba
4ndSale(faa
6ed(f
4rr(a
6or(a
8Msg(ac
<c
4scrow(a
9Eth(a
<Req(a
9Req(a
9Wei(a
<Req(a
4therBounty(bac
8;(baa
8affleChange(bba
4uro$OwnerMigrated(ba
4vent(absjaa
:cakbaa
9baac
9c
4xchange(bba
5tendSale(a
7rnal(abd
3FailedSweep(bba
4eeEvacua~(a
6TopUp(a
4inalize(a
<dd
;Match(ae
;d(a
=b
>a
6ishICO(b
>bbb
9PreICO
4ollow(aba
5rbid(ddd
6kAnnounced(cca
7Signed(ad
6warded(baj
4reeze
9rAddi~(ba
:Removal(ba
5ozenAccount(bf
9Status(fa
4undAnswerBounty(daab
7;(ba
Bf
Abae
7erInitialized(bbca
Ia
Fca
7ingReceived(baa
:Successful(a
7sCommitted(bbaaab
8Locked(baa
8Unlocked(baa
3Game(cccc
7Created(a
7Started(a
4etDeposit(bac
6Ether(bac
6MoneyBack(bac
4ive(bac
4oalReached(ba
4rantClaimed(da
9reated(da
3Hash(a
4odlClaimed(bba
7SetStake(bba
8tartSet(ba
3I(a
4coCompleted
6$SupplyUpdated(a
4d(b<uint48>
5entityCreated(bbbb
4ncomeAlloca~(ba
6reaseCap(a
5sert(ba
5t(ca
5vest(ba
9ment(ba
?ba
9orMigrated(baaa
;Profit(ba
;Refunded(ba
9share(ba
4ssue(ba
4temModified(baaddd
7Registered(baaddd
7Update(a
3KYCConfirma~(b
4ill(ddbbbnnl
4ycRefused(ba
3LOT;(baaaa
4ate(baa
4ockStateTransi~(ee
5ss(baa
5tteryResult(iedj
3Make(ddbbbnnl
7Deposit(bac
5tchingEnabled(f
4igrate(ba
<ba
9ion(ba
<Canceled(bbb
<Enabled(b
<Finalized(bbb
<Initiated(bbb
5nSell(ba
6t(ba
7ing(baa
:Stopped
4oneyToPreICO(bac
8line(mm
5veMade(aeeee
3N(bdacjaAa
=a
4_fnc(bdacj<func~>aAa
Ka
4eeded=(a
5umarksBurned(baa
;Issued(baa
5wAlloca~(ba
Beaa
7nswer(dddbaaf
6Blacklisted!(bb
6&Proposal(bbba
6Owner(b
6Provider(bcd
6Ques~(dbacdbiiaa
6Security$(cbbbae
6Template(abc
>Proposal(bbba
6|(ab
=b
7hitelistUser(ba
Fa
?ed!(bbe
4ote(sbddaj
6iceMsg(bac
7fyOfArbitra~Request(db
3OmegaEggSale(ba
4peratorAdd(b
;Rem(b
4raclizeCall(adc
Ca
?back(adcj
5derCancel(baa
9reated(bbb
4wnerAdded(b
?bb
8Change(bb
>d(bb
8EthWithdrawn(bac
8Removed(b
Abb
8;(ba
3Participa~(ba
Ca
5use
8(af
9d
9f
8ICO
8d
9(f
5ymentReceived(ba
6out(baa
9Failed(baa
4enaltyDisbursed(babb
5rmit(ddd
6sonNew(baa
9Update(baac
4haseSwitch(e
4olicyAccepted(aaaaaaa
:pplied(abda
9Declined(ad
9Expired(a
9ManualPayout(ad
9PaidOut(aa
6lApproved(d
7Created(d
7Deleted(d
7Voted(dba
6yClaimed(beaaa
4repareContribu~(baaa
:PreContribu~(baaa
:ToStart(caabb
5ocessedInterval(ll
4ush(bnc
3Quantity(ac
5ery(db
8FeeSet(aa
3Random(aa
:l
4ebalance(bdcaaa
5ceiveFunds(bea
:d(ba
;ETH(ba
Aa
<ther(bbac
6ordWin(ba
7veryChanged(bbb
5deem(ba
<d
9NET(bad
9Ticket(abc
:oken(ba
9VIBE(baaa
6istribute$s(bea
5f(bb
6erral(bba
6und(a
:ba
<a
:dba
9ETH(ba
9Failed(ba
9Processed(ba
9ingOpened(a
9sEnabled(b
5gError(bc
6ister(bb
=c
;edInterval(ll
6ularityConfirma~(bfd
5m$PairWhitelist(bb
6ainingHalvingSubsidy(aa
6oveWhiteListed(b
5place$(ba
5questAccepted(b
7irementChange(a
5sult(abaaamaa
:dbaaamj
;ejj
9NoWinner(aaj
9Winner(abaaj
7med
5veal(aba
6okeNotice(dba
5wardAllocated(baa
9Picked(abaa
4mUser(b
4ollback;(bba
3S(c
4ale(baa
7CapReached(a
Ca
8losed(aa
4electWinner(aabaaa
6l(baa
;a
5ndFail(ad
8unds(bea
7POS$s(bac
7Reward(bbc
7$s(bac
7er2(bb
5tAuthority(b
6Name(c
6Owner(b
6PicosPerEther(a
7reICO(bc
6Ques~Fee(ba
6RBInforma~Store!(b
6STO&(bbbaa
7tageStart@(da
9te(aead
7ymbol(c
6$^(a
6WithdrawLimit(ba
>er(b
6up(baa
4ignature(bj
4napshotCreated(a
4ortedOffer(a
4quareWinsUpdated(aaa
4tart
8Date(aa
8ICO
8PreICO
8Sale(aa
8Week(c
6teChange(e
8Switch(e
8Transi~(ee
5op
5r(c
5udentCertified(babd
:Uncertified(bab
4wap$(ba
5eep(bba
;ba
3Take(ddbbbbnnl
4eam$sDelivered(ba
=;red(ba
5mplateCreated(bbc
;Set(bbb
4hresholdChange(ba
4icket(aba
5medTransi~(ae
4okenAlloca~(baa
9ssigned(bb
8Deposit(baj
9istribu~(ba
8Issued(baaa
8Preissued(ba
:iceChange(ac
9urchase(aa
Abaa
Bbaa
8Receiver(ba
:mover(ba
:ward(ba
8SaleInitialized(bbaaa
9ent(bfc
8sBought(ba
Baaa
9Frozen(f
9PerEthUpdated(a
:urchased(baaa
9Withdrawn(ba
5wncrierCallback(lld
4rade(abab
9bbaaeeamam
8Error(bbaak
6nsac~(ba
>Complete(dbaj
@nfirmed(dba
>Failed(db
8fer(bba
?c
?j
;FromOwner(bbaaa
;Ownership(bc
8i~(da
3UnPause(d
5finalized(a
6rozen$s(cba
5pause
5sortedOffer(a
4pdateInvestorProfitSum(a
9dComplianceProof(dd
:Initial@stamp(a
:LimitPerDay(ea
4serAdded(b
<ToWhiteList(b
7Registered(b
Cb
9moved(b
7UnRegistered(b
9registered(bb
8serRemovedFromWhiteList(b
3ValentineRequestCreated(cccbb
6ue(d
4ictory(ae
4ote(b
9aaaa
9fa
8dfb
7Initiate(aaaaaa
7ToFreeze(baef
7s(ea
3|Updated(b
5terTree(aba
4eekRate(ia
5iWithdrawn(ba
4hiteListed(ba
>Multiple(a
8listAdd(b
Aab
<Remove(b
Da
<Updated(b
4in(baaa
6ner(ba
:c
:e
9Paid(b
5thdraw(a
<b
=a
;$s(ba
;al(a
>ba
@a
9ew(ba
3gerAuthorized(b
3s(baa
7c
5c
42(aaaaaa
2ng
4Bought(vJa
=e<bytes32[3]>a
<Ma
=e<bytes32[3]>a
<ye<bytes32[3]>a
4Closed(ba
4Place(vLexa
;za
=a
<exa
4Term
8Project$s
E!
8ReserveMinted(bbaa
2okAtAllTheseTastyFees
6=
6CollectedFees
6DepositsToPlay
6Last@PerZone(a
6NumberOfPlayers
6Prizes
3neyLottery
2ser(cc
3s(bea
8dda
;a
3tPayment(ba
2ttery
7GameLogic(bb
7Log(bc
7RoundCompleted(desa
=reated(bc
<Draw(bs
<Started(ddac
<Winner(bs
5sy!
4o
5(b
5Complete(baa
7unt
2velockPayment(bda
4rsAdded(cc
2wGas?
3JackpotHolder
3erStarting^(a
1uckblocks
4yDoubler
5buy
2vtoken
0M(a
15Logic
2$
1AC
2GNITUDE
2INSALE_CAP
4TENANCE_FEE_PERCENT
5_PRICE
4_COIN_PER_ETHER_ICO
5HOLDER_ADDR
5MAX_CAP
5QUESTION
5SALE_BONUS_PERCENTAGE_PHASE1
P2
P3
P4
:END_TIME
:START_TIME
:VALUE_CAP
2JOR_VERSION
2NA
4GEMENT_FEE_RATE
;LOCKED_ALLOC
BPERIOD
;TEAM_SUPPLY_LIMIT
6R_SUPPLY
6_CAP
:_PER_ROUND
3HATTANPROXLENAV
2RGIN_SPLIT_PERCENTAGE_BASE
3KET
6ING_POOL_ADDR
?TOKENS
:SHARE
:supply
6_CAP
:_PER_ROUND
8HANGE(b
7SHARE
2STERY_THRESHOLD
6_WALLET
2TCHES_PER_ROUND
3_CROWDSALE_SUPPLY_LIMIT
4PARTNERS_SUPPLY_LIMIT
4TEAM_SUPPLY_LIMIT
5OTAL_SUPPLY_LIMIT
4UNIT
2X
3CAP_TOKENS_ICO
>PRE_ICO
3IMAL_PARTICIPATION
5UMINVESTMENTSALLOWED
7_64_BIT_SIGNED_INTEGER_VALUE
8BET_SIZE
8CAP
9ONTRIBUTION
D_LIMITED_PERIOD_USD
EWHITELIST_PERIOD_USD
8ETHER_SPEND
8FIRST_DAY_CONTRIBUTION
8ICO_TOKENS
8NON_WHITELIST_AMOUNT
8PARTICIPATION_AMOUNT
8SUPPLY
3PERWEI
3ROUNDS
3SALESCAP
4OLD_SUPPLY
3TOKENSOLD
3UM_SUPPLY
3WIN_inTHOUSANDTHPERCENTS
3_ACTIVE_CANVAS
5IRDROP_TOKENS
<VOLUME
5LLOCATIONS_COUNT
8WED_BOUNTY
=Y_STAGE_1
E2
<PRE_SALE
<STAGE_1
B2
B3
<TOTAL
5MOUNT
5THENIANS
5UDIT_TIME
5VAILABLE_JOINTTOKENS
4BALANCE
5ET_VALUE
5ID_FRAC_BOT
=TOP
5OUNTYTOKENS_AMOUNT
:_ALLOCATED_TOKENS
;SUPPLY
5UYIN_GAS_PRICE
4CANVAS_COUNT
;NAME_LENGTH
6P
6RS
8_TO_GIFT
5ITIES
5OLLECTORS
6MMISION
:SION
6NTRIBUTION
@_DURATION
ASLOTS
AUSD
AWEIS
;_CHECK_END_TIME
5RATES_TO_SELL
6OWDSALE_CAP
>TIME
9_FUNDING_ETH
:SALE_TOKENS
4DAILY_COSIGN_SEND
:SOLO_SPEND
:TOKEN_COSIGN_SPEND
@SOLO_SPEND
5EPARTURE_LIM
5ISCOUNT
5TH
4END_BLOCK_NUMBER
5TH
7ER
9_24H
:CONTR
7_FUND
5XCHANGE_FEE_PERCENTAGE
4FEE
7_PERCENTAGE
5REE_REFERRAL_PACKS
5UNDING
;_AMOUNT
<SUPPLY
8S_RAISED_DURING_PRESALE
8_ASSETS
4GAS
7_PRICE
5EN0_GIRLS
5OAL_EBC
5RANTEE_TOKENS_ALLOWED
4HOLDERS
6ST_PERCENT
4ICO_GOAL
8SUPPLY
5MMORTALS
5NPUT_USERS_COUNT
6TEREST_AMOUNT
6VESTMENTS_BEFORE_MULTISIG_CHANGE
:OR
<S
:_SHARE
5SSUED_FROM_OTHER_CURRENCIES
4LAYERS
5EVEL
5OAN_AMOUNT
5RC_DEPOSIT_PER_ADDRESS
4MIDGRADE
6LESTONE
6NT_NUMBER
5ODULES
4NON_SALE_SUPPLY
5UMBER
:_BETTERS
;OF_PREMIUM_SALES
7_AVAIL
8NAVITOKENS
8OZT_TOKENS
8PAYOUT_ATTEMPTS
4OBR_CAP
5PEN_SOLD
6S
5WNER_COUNT
:PERS_SITE
4PAYOUT_FRAC_BOT
@TOP
5ENDING_REQUESTS
6RCENT
;_OF_PRESALE
?SALE
7IOD_COUNT
7SIANS
5OWERBALL_NUMBER
5REICO_SUPPLY
7MIUM
7SALES_EXTENSION
;_TOKENS_SOLD
7_SALE_AMOUNT
6ICE
9_SALE
7VATE
;_FUNDING_SUPPLY
6OMO_GIRLS
5UBLIC_FUNDING_SUPPLY
;SOLD
6RCHASE
<_WEI
4QUANTITY
4RANDOM_DELAY
5ECEIVED_PER_PERIOD
6FERRAL_TOKENS
6GULAR
6VENUE
5ING_SIZE
4SALE_DURATION
9SUPPLY
9VOLUME
5INGLE_ISSUED_FROM_OTHER_CURRENCIES
6TE_ID
9TOKEN_ID
5PARTANS
5TAGE_1_LIMIT
:2_LIMIT
7NDARD_SALE_PACKS
5UPPLY
:_DECIMAL
;NBTOKEN
;OF_TOKEN
;USPN
4TIMEOUT
8_EXPLORE
9RANGE_COUNT
5OKEN
9S
:_ADVISORS
C_PARTNERS
<IRDROPS_BOUNTIES
;EARLY_INVESTORS
;FOUNDERS
;RESERVE
;SALE
<OLD
;WEIGHT_DENOM
9_BUYIN
:CAP
:GRANTEES
:REWARDS
:SUPPLY
6TAL
9_ADOPTED_AXIES
;MOUNT_GET_ETH
ATO_RECEIVE_ETH
:CONTRIBUTIONS
:SUPPLY
:TOKEN_AMOUNT
F_OFFERED_TO_PUBLIC
@SUPPLY
5RANCHES
8SFER
<S
<_TIMSPAN
4UCCOIN_SUPPLY
5INT
8256
848
5NICORNS_TO_GIFT
6SOLD_RATIO
6_LOCK_TIMES
5SD_FUND
<ING
6ER_TOKENS_BALANCE
4VALUE
5OTED_TOKEN_PERC
4WEI
5HITELISTED_COUNT
5ITHDRAWAL
<_PCT_DAILY
ATX
4YAYS
3finney
2YExchangeRate
3TotalSupply
1BCashSupply
1CT$!
1EDIA_SUPPORT_PERCENT
>WALLET
2GAMALLCOIN
4_HERO_MULTIPLIER
2LONPORT_COMPANY_STAKE
5_ASSET
6BASE_UNIT
6CONTRACT
2NTORS
2SSAGE(c
7_PRICE
2TADATA_URL
2W_CROWDSALE_FUND
4RESERVE_FUND
1FTU
1HTHolders(a
1ICRODOLLARS_PER_DOLLAR
5_DOLLARS_PER_BNTY_MAINSALE
GPRESALE
2DGRADE_TYPE2
=3
=_COUNT
3_GRADE_CATEGORY
2GRATE_MAGIC_ID
2LLION
7_TOKENS
2N
3BET
6_forORACLIZE
7perROLL
:SPIN
:TX
3CAP_TOKENS
=_ICO
>PRE_ICO
4ONTRIBUTION
3D_FOUNDATION_AMOUNT
3E
4RS_HOLDER
7STAKE
5_AUCTION_DURATION
6CREATION_LIMIT
6END_PRICE
6STAKE
9RTING_PRICE
3IMAL_INVESTMENT
8PARTICIPATION
9RE_ICO_INVESTMENT
9URCHASE
8WEI
5UMCONTIB
7INVESTMENTPRESALE
ASALE
7_AMOUNT
8BET
;_VALUE
8CONTRIBUTION
8DURATION
8ETHER_SPEND
;_SOFT_CAP
8INVESTMENT
8LOCK_AMOUNT
8MANUAL_SIGN_PERIOD
8PARTICIPATION_AMOUNT
9RESALE_PURCHASE_AMOUNT_IN_WEI
9URCHASE
@_AMOUNT_IN_WEI
AIN_USD
8QUORUM
8SELLING_UCCOIN
8VESTING_PERIOD
4NG_LAYERS(a
7OUTPUT
7POOL_AMOUNT
<HOLDER
7RESERVE
9WARD
=S(a
7SUPPLY
3OR_VERSION
3SALESCAP
3TING_LIMIT
4TIME
4_ADDRESS
6MOUNT
5CAP
5INTERVAL
=_SEC
5LOCK_DURATION_IN_WEEKS
5SERVICE_NAME
3_ACCEPTED_AMOUNT_FINNEY
=VALUE
:_ETHER
5MOUNT
5UDIT_TIME
4BANKROLL
5ET_VALUE
5ID
7_FRAC_BOT
=TOP
5ONUS
5UYBACK_VALUE
7IN_VALUE
7_ETHER
8TOKENS
4CAP
6RD_PRICE
5ONTRIBUTION
@_AMOUNT
ACHF
AETH
APRESALE
AWEIS
5ROWDSALE_TIME
8SALE_TIME
4DEPARTURE_LIM
7OSIT
4ETHER
9_CONTR
7_FUND
8TRANS
4FEE
5REEZE_DURATION
5UND
8ING
;_AMOUNT
<GOAL
8_AMOUNT
4GET_AMOUNT_FINNEY
5OAL_EBC
6LD_TO_UPGRADE
4HARD_CAP
5OLDER_TOKENS
4ICO_GOAL
8SLOGN_COLLECTED
5NVEST
:ED_ETH
;MENT
:MENT
>_ICO_PHASE_ONE_POUNDS
ITWO_POUNDS
?PHASE1
:_ACTIVE
;BOARD
<UY
;ETHER
;SUPPORT
5VESTMENT
4LEADER_FRAC_BOT
@TOP
5IMIT
4PLAYERS
5RESALE
;2
7_FUNDING_GOAL
8ICO_SLOGN_COLLECTED
6ICE
9_IN_CENTS
:SALE
5URCHASE
<_OTHERSALES
4REFUND_RATE_DELIMITER
4SALE_AMOUNT
5HARE_OF_POWER
5ITE_ID
5TAKE
7RTING_PRICE
4TASK_VALUE
5IMEOUT
8_EXPLORE
5OKENS
:_TO_EXCHANGE
9_AMOUNT
:INVEST
:PRICE
:UNIT
6TAL_AMOUNT_GET_ETH
ATO_RECEIVE_ETH
5RANSFER_TIMESPAN
4USD_FUND
4VALUE
4WEI_AMOUNT
5ITHDRAW_WEI
5TH
3finney
2SCELLANEOUS_TOKENS_SUPPLY
2TPurchase(bbaa
1JT
1KRUSD
1LB_Legal
1NY
1OACSupply
2M
3O_FOUNDATION_WALLET
2NTHLY_INTERNAL_VAULT_CAP
5_IN_MINUTES
9SEC
3UMENT_CITY_FEE
9UN_FEE
2T
3Discount
2VIECREDITS
1PO
2YCrea~(ba
3Refund(ba
1RNToEth
1STCOIN
1TC
2P$
3_PER_ETH_PRE_SALE
<SALE
2UV1
2oken
1ULTIPLIER
5SIG_ETH
9OWNER
9TKN
9WALLET_ADDRESS
5_SIG
4_FACTOR
2SPRA
1VM
324PeriodsCapUSD
1YDECIMAL
2INITIALSUPPLY
2SYMBOL
2TOKENNAME
1ade(bbaaaaaaaa
4Bet(aeb
2inIco_Cap(b
4SaleBuy
8Closed
8Deadline
9istributed
8End(a
8^
8Start
=(a
4$
4netSurvey(aco
4streetCrowdfund(aaaaabbbb
:$(bbaf
4tenanceUpdate(f
2jLastNotVal
4istAll
7NotVal
7Val
3orEvent(ccc
2keAdministrator(b
4BuyOrder(dbaab
4Dai(bbaa
<a
4ERC20(aacc
4My$(cca
4SellOrder(dbaab
4Tradable(f
7nsfer(ba
4_Deposit
4rDepositedEther(a
5;redAsset(ba
@Ether(ba
5WithdrewAsset(a
=ERC20$(ba
>ther(a
3indo
2naged
7Account(bf
6ment
6r
7Added(b
7Changed(bb
7DisabledEvent(b
7EnabledEvent(b
7PermissionGrantedEvent(bc
ARevokedEvent(bc
7Removed(b
7Set(bf
7Update(bb
7s(b
8Changed(cb
3ualChangeEndDate(aa
<StartDate(aa
<UnholdDate(aa
6Deposit
6^Change(aa
7urchase(bba
6$MintRequiresRefund(ba
7ransfer(ba
6_Mint(ba
2poc(</*address>
3pingDone(ba
7ProposalIssued(bba
2rijuaneum
3kHours(ddmf
4ed(bbbbaad
6AsScam(bba
5t
6(a
6Maker(bbaa
6Open(b
7rderEvent(anekaa
6boardListingBuyback(ba
BComplete(baaa
Oa
BDestroyed
B^Changed(aa
6ing
9Addr
:lloca~(ba
9Development!
Emount
9Method!
2ster
6nodeDeregistered(ba
:Mined$s(ba
:Registered(ba
<wardAddedToRewardPool(a
@Send(a
:;red(bb
2tchAborted(a
6dded(aek
5End(ac
5Getted(afaaa
5List(a
5Payoff(aaaa
5ResetDeadline(aa
5ing_Ethers
9Finneys
5makerPrevails(bbaaa
7sterPrevails(bbaaa
;Takeover(bba
3tew
6Won(cbaa
4hew
7Won(cbaa
3urity^(aifff
2x
3AirDropXblock
3Bet?Changed(a
6Update(a
3CapReached(a
4hildLevel(b
4ouponsPaymentUSD
3DistribPublicSupply_
4ropReward
3Eth
3Funds(baa
3ICOSellSupply
6publicSupply
4tems
3MasternodesAllowedChanged(e
4inersXblock
6ingReward
3NumberOfBetsChanged(a
3Offer
3Players
4oSXblock
3ReleasedBac
3SantaRewardPer$
4tarIndexAvailable
4upply
9(baf
3$
8s
9PerAccountUpdated(a
5talSupply
3Value
3_CAP
4Mintable
3imalInvestmentChanged(a
A@TresholdChanged(a
5umHodlDura~Changed(aa
7Sellable$sChanged(a
7coinStart
3supply
2ybePerformClose
<Open
<Withdraw
1crForGasFailed(ba
1eSum
2diatedTransac~_Protec~_Seconds
Cs_Log(a
ETransac~Height
=ferStatusModified(af
8_;(abba
6orFees
2eting@SetFailure
7sEntity
2galoh
2lon$(bbaa
3t(aa
5b
4down(a
2mberAdded(b
=a
6Bought$(baaaaa
6Changed(ba
?b
6Removed(b
6Sold$(baaaaa
6s(b
7hipChanged(b
Cf
:Paid(bea
;urchase(baa
2noroCashSupply
3tors$sPercent
=|
3u01(ba
52(ga
53(a
54
55
56(bba
57(b
58(a
59
410(b
2rcatusDeals
4uryCrowdsale
3geStatus
3kleAirDrop$(cceda
6TreeRootAdded(ej
2ssage
7(a
8ba
9bbc
8c
9ba
7Added(bca
7Sent(aacc
<bbacca
<ccca
;ToChannel(bcca
9t(caab
7$
7Updated(abc
7_To_Investors
2taChanged(add
<ddd
5oin
4Gold
4Poc(b
5roject
4Updated(cc
4dataUpdated(abc
@bac
3hNSupply
3ronome
4umcoinShares
1iCarsICO
2croDAO
2das(bb
2grate
7(ba
9ba
7AgentSet(b
7d(b
:a
:ba
8$s(ba
6ionFund
9InfoSet(c
9s
2lestone(ce
9?Raised
9CashBack@
9Input
9PostponingHash(d
:ricing(baU
9_BankLicenseFailed(c
ESuccessful(c
:CloseTheIco(c
:IcoFailed(c
=Successful(c
:OpenTheIco(c
9sEntity
2n?ByBetChanged(a
3Bet?Changed(a
6Update(a
3CapReached(a
3Deposit
3Investment
3Payment
3SlippageFactorSet(aab
4tarIndexAvailable
4um
3e
4(ba
7a
7t
4AD(ba
5ffected(aa
4BlocksAddr
4Cooldown(a
4Finished
4Level(a
4Owner(a
4PoS(ba
4_Block
4d(ba
5Blocks
5ThisYear
4rEdgeCommunity
5RandomNumber(a
6ewardChanged(a
5s
4sOnTrade(a
3imalPayValue
5umBitcoinInvestmentUpdated(aa
7Contribu~Changed(a
7Deposit
8ona~
7EthereumInvestmentUpdated(aa
7FundingGoalChanged(a
7PoStokens
4ng24(aa
6AttemptEvent(baaaa
6Extended(aaa
6Finished
6Levelup(baa
6Payout(baa
6Reward
<Changed(a
Bs(a
<PerETHBlock
<Sent(bba
<;(bba
7igFarmer
6Start(aaa
8olenPayout(bbaa
6Upgrade(baa
3o
4rPrizePayout(bae
3t
4(a
6a
6ba
7c
5b
6a
7a
8a
9a
8d
7c
7f
7j
6ba
6d
4And;(bad
?EXH(bad
?IAC(bad
?$(bad
4ByBTC(eba
4CommandBonus
6nfirmed(aba
4Event(ab
:ba
5xecuted(aba
4Finished
<(a
=b
4ICO(bba
5ND(bba
4Locked(ba
6g(ba
4Made(aaa
6ster;red(bb
4Opened
7ra~Event(baaa
4Paused(f
5roofOfStake
7posalAdded(aba
4Restarted
4Started
4@locked(ba
5oOwner(a
6ggle(f
6ken(a
:bba
9s
:(ba
=f
4able$
4ed(a
7ba
6EthCappedCrowdsale(b<PricingStrategy>baaaa
6Green(ba
9y(ba
6Locked(ba
6$(ba
=ba
;CappedCrowdsale(b<PricingStrategy>baaaa
Lbbaaaa
5rAdded(b
6Changed(bb
6GaveCWC(bba
6Ownership;red(bb
6Removed(b
6Updated(bb
4ingAgentChanged(bf
8llowed
7Closed(f
7Disabled
7Ended
7Finished
7ManagerApproved(b
>Revoked(b
1jolnir!
7Website
1oacSupply
2bileAppSupply
6Go$
2ccaCoin
2derateBill(af
7orAdded(bbf
9Removed(bbf
3ifyFeeFrac~(a
6Marking(daa
7ine(afca
6PublicKeySize(e
6Settings(aaaaaaa
6Vigencia(a
2eda$
2netha!Set(bf
4yAddedForRefund(baa
5;ed(ba
3thlyPaySend(ab
5profitend
;start
5sProfit
2ogu$
3nraker(bb
2re$sMinted(ac
2td(c
2veFish(aa
5romBase(a
4Learned(aa
4Rerolled(aaa
4ToBase(a
6kens(bba
2yOpenDistribu~
1sg
2tcoin
1tcDailyLimitChange(a
1ul(aa
3Tra$
3tiAccess
5Sig|(ga
>WithDailyLimit(gaa
5Transact(bdabj
=ion(bgh
:fer(bgh
>gh
=ETH(gh
=Value(ga
Bs(gh
5Vault(ba
5plesaleAirdrop(gh
7ier
:(a
5send
6igs(a
9Changed(bb
5vestSet(b
9Unset(b
2mmyAccountWithdraw
1xRecordChanged(db
1yAdvanced$
2Bet(eb
2Coins
4ntract
2EtherBank
2First$
2Gaoguans
2KidsEduca~Fund
2PasswordHint
3roducts(ba
2Scheme
2Test|7
3oken
7(acce
:ecb
7Load(acecb
7s(b
4talNTD
7Withdrew
2WhiteList
2referredRevenue(b
2steriumCrowdsale(b<PricingStrategy>baa
9Pricing(a
9$Distribu~(<Crowdsale$><Crowdsale><MysteriumPricing>
2tilcoinStorage
3oken(icecb
0N
1(aa
1AME
4_ARK
5HAWKING
5NOT_AVAILABLE
5SATOSHI
2ORIS_TEAM_TOKENS
2TIONALITY_INDEX
4VE_ASSET
1CPPrivate
3$Deposit
1EOBleu
2XT_POT_FRAC_BOT
>TOP
1FT!
1IMFA_PER_ETH_PRE_SALE
>SALE
1LFunds(a
1O
2NE
3_PAYABLE_AMOUNT
4TRANSFERABLE_TIME
4VESTED_TEAM_ADVISORS_SHARE
2T_AUDITED
4ENDED_FINE
3token
2_BATTLE_LOG
3MONSTER
1RB_address
1SPFallback(baa
1T(a
2Founda~Addr_
2RYAvailableForSale
4PerEther
1ULL_ENCRYPTION_ALGORITHM_DESCRIPTION_URI_ID
ZSET_ID
JID
2MBER_OF_BOOSTERS
:COUNTRIES
3US
3_COIN_PER_AXIE
6UNTRIES
4OF_CHOICES
7PHASE
4POTATOES
4RESERVED_AXIE
=COIN
4STAGES
4TEAMS
5ILES
1VBSupply
2TAddr
3Fallback(baa
1YXDecentralizedIdentifica~Request(cc
1ZD_CLEAR
1ame
4Change(c
:d(bacca
<dc
4Int
4Registered(baca
@d
3iAddr
2noPyramid
1dexSupply
1egativeWhuffiesSent(bbac
3lect(baam
2lsonChenTest$
2ptunSupply
2roSupply
2ter&
3f=
4Revenue(a
3krone
2w(cd
3AccreditedInvestor(bb
4dmin(b
:b
4mbassador(bb
4quarium(b
4reaStatus(aeeeea
5twork(bdaccabff
4uc~(baaala
3BOP(b
8baacc
:eac
9bafac
4atch
4id(dba
5ggestDick(cca
4lock(a
4oardMember(b
5ok(dba
7ing(baea
4udget(ba
5yer(baa
3Clone$(b
?a
8d$(b
4ontract(b
8ibu~(ba
Ba
4urator(b
3DataRequest(afc
4eal(abbbbaaaaaaaa
8baaaaaaafc
5posit(a
<aab
=b
4igitalAsset(bb
4onor(baa
4rawReadyToPlay(adaa
4ungeonFloor(aaina
3EgasDrop(gh
4ntry(b
:aaa
4ther^(a
4xchangeRate(a
3Fee!(b
6s(aaa
4ounder!(bb
4unding(bbaaab
7s(ba
3Game(adddba
8dddba
;dba
4irl(baaaa
4rant(bba
3HardCap(a
4ero(b
4ighestBid(ab
>bac
4older(b
3Image(a
:eeeeccc
4nvestment(ba
9or(bia
4ssue(ba
;a
;j
3King(abcaaa
8b
9a
4oth(aabaaa
>aa
3Leader(abaa
:bp
4isting(aa
4owestAsk(ab
3Manager
6ualInvestor(ba
5rketMaker(bc
5yor(bb
4essage(c
4inter(b
3Name(bc
4ode^Ticker(c
3One(baa
4raclizeQuery(c
5der(abbbaaaa
4wner(ab
9b
:b
9ddb
3PAIReceipt(b
4articipant(baaa
5ss&or(bbbb
7Manager(bbbb
7Project(bbccd
5yment(ba
6roll(b
4hase(e
4lay(baf
7er(ba
9Added(aa
4ost(da
5tentialOwner(bb
4refix^(aa
6saleAlloca~(ba
5ice
8(ac
5oject(b
3Q(cd
4ues~(cd
5iz(cd
3RC(b
4ate(a
7Set(a
4eferral;(bba
6undTransac~(a4
5gistrar(b
;~(ab
5solver(ab
<db
4isk
7Adr(b
4ound(aaa
8Started(baaaaaa
3Sale
7(aaaa
9ba
8ba
:a
;f
7Projects(ccca
5ndwichTicket(cbcc
4ell^(a
5rpent(a
4hare(cfc
4mart$(b
4oftCap(a
5phon$(b
4tage(aa
:cca
6te(e
7ic
9Adr(b
4ubscrip~(baa
Abaa
5gges~(bca
5pplyAdjuster(b
4ymbol(ce
3TKLN$(b
4TL(dl
4ext(cc
:ba
4icket(bf
9Event(beee
4oken(cccb
8FromFactory(bba
8Grant(bbaa
Alll
8s(a
9Sold(aba
4ranch(a
7sac~(clcle
3UpgradeMaster(b
:d?(aab
4ser
7(abbi
8b
9rl
8d
7Added(bb
7name(bc
3Vested$(bbaa
3|(bbb
9s(bb
4inner(be
3XRateProvider(bkb
3s&Entity
2xium
3tDouble(ba
4Game(aaaa
4ItemID
4Mint(a
4Open
5wner
4Payout
4Rate(a
5ewardBonus
:Halving
4Step(e
1iceGuyPonzi
7Tax
2gelFundSum
2nja$(bb
1oBonustimer
2FeePonzi
2Winner(bamc
9c
2dalblock
2nActiva~Withdrawal(vLexa
Iza
Jexa
3IssueDeposits
3ceTick(a
2rm
4alizeMoney
9Ranks
3thPoleAF
:ddress
9MintingEnabled
2tAnotherPonzi
3Finalized(dd
3ToRent(aab
3ValSince(a
3arize(d
5y$
3e(bc
4Changed(c
4s
3hingToCancel(b
3ified(ba
7r(c
8Changed(bb
5y_Number(ca
7String(cc
2vaCoin;(ba
2xonInit
1play
1ucleusVisionAirDrop$sMinted(ba
=@Vesting$sMinted(baaaa
>okenUnlocked
BsMinted(ba
2ke&(b
2llify(bbbb
2mber!es
6Created(b
6OfAuc~s
8BlockAlreadyMined
8CurrentBlockMiners
8Miners
8Part
6Taken(a
6s$
3tokens
0OAR
1BEFAC(b
2GAlloca~(b
2R_Dura~
1DD
1EM_|
1FFICAL_VOTING_DAY_OF_MONTH
3SET
1K
1LD_TOKEN
1MG
3=
1NE
3PERCENT_TOKENS_PER_ETH
3SATOSHI$
3TIMESOLD(a
3_BILLION
4DAY
4EMONT
4HUNDRED_PERCRENTS
4MILLION
4PERCENT
4QUINTILLION
4TOKEN
9S
4YEAR_KEEPING
2O
2TExchangeRate
3TotalSupply
1OREDOOCHAIN
1PENING_TIME
4SOURCE_TOKENS
4_PACKAGE_PRICE
5SALE_STAKE
3RATE_SUPPLY
6IONS_ADDRESS
;SHARE
9_AMOUNT
:HOLDER
:STAKE
2L
2SPool!
3$
2TIONAL_POOL
6_POOL_ALLOC
<PERIOD
1RACLIZEGASPRICE
8QUERYMAXTIME
8_COMMISSION
9GASPRICE_GWEY
<_LIMIT
2DER_CANCEL(bba
6DONE(bbbfaaa
6EXPIRATION_TIME
6FILL(bbbfaaa
6MODIFY(bbaaa
6PLACE(bbfaaa
2IGINAL_IPFS_HASH
6_ETH_BRT_RATIO
2NETCOIN
1SUniEDUSupply
1THERCRUISER
<_EXTRACTION_BASE
=FTL_SPEED
=MAX_CARGO
5_STAKE
1UTCOME_RANGE
3INGRESERVE
1VERALLSOLD
2ISBOOKED_BONUSTOKENS
;TOKENS
4RESERVED_TOKENS
1WNER
5S_ALLOCATED_TOKENS
8ND_PARTNERS_ADDRESS
DSUPPLY
8UCTION_CUT
7TOKENS_AMOUNT
5_ADDR
6CLAWBACK_DATE
7UT
6LOCK_BLOCKS
6POOL_COMMISSION
6SUPPLY
6TAKE_SHARE
7OKENS
<_PERCENT
7RANSFER_TOKENS
3_ChangeState_locked(f
:$(cce
4Distribute$Admin_Multi(gaf
4Smart&_Allowed(bf
4burn(a
8!(ba
8$(ba
4contractlocked(f
4freeze!(bf
4kill
4mint$(a
4transferOwnership(b
2PayoutArb
1XGOLDSupply
2_ORG
1ath
1birumIssued
6Talk
2ject
6Purchase(bbaa
6edVote(dba
2ok&
1ctober12_2017
1ddMoney(ba
2uwacoin
1ffer(bcaa
5Cancel(e
;ed(ab
?jb
6ontract
6reated(ajb
5GameList(ba
5OnHold(afb
5Play(bee
5@
6oCastle(aa
7Disciple(aa
7Guardian(aa
7Realm(aa
5UnHold(ajfb
6pdated(ajab
5edForSale(a
5ingCloses(aa
8Opens(aa
3icalHold
;ing
5ialApps(a
8|Addr
3lineCastleSold(aba
1mega$(bb
1nApprove(bba
2Contribu~(bfaaa
2PreSaleBuyerCompensated(ba
2Receive(l
2;(bba
2UpdateFee
8Message
2Withdraw(ba
:To(bbal
?bal
2eEtherEqualsInWei
1pen
4(f
5j
4BankAccount
5ox(a
4&
4Date(a
4Game
5ift
4RedEnvelope(c
4@
5oThePublic
6ken
5ransfer$
4Window
:(aab<$>
3ra~(d
:e<bytes32[8]>
9!
9alSplit(a
9sFund
6orAdded(bf
8ProductCommissionChanged(a
2p$
2s!Changed(b
:Updated(b
2tedIn(bb
5Out(bb
3ionExercise(ba
6;(bbaa
6sConversionOffered(bbii
2ulentos
1racle
6Request(b
5ize
8AddrResolver
8Callback(dc
8Query(c
2der(aa
8a
6baa
8baaab
=edd
5Added(bbaaa
6pprovedPartOne(dbbbaabeebej
ATwo(djbjbaaaaaf
5Cancelled(aa
?d
5Filled(ba
6ulfilled(aa
5Match(bmbmaa
:Failure(bmbmaa
5Paid(abaa
5Take(a
5Updated(a
5_execute(bbaa
6sell(baa
5sMatched(ddbbad
6Paid(a
2ganiza~
2igami$Purchase(baaaa
4inalMyIdRepository
1sherCoinAward(a
9PresaleAward(a
6urrentICO^
1ut(a
3come
7Event(ca
1verpayRefund(ba
4sight
2is!
1wanble
2n
3able
71
72
73
3ed
5Resolver
4r
51
5AddFunds
8ed(b
<d
8i~(b
8ress
6nnounce(c
5Cashout
6hange(bb
;d(b
>b
?d
=db
6lose&
5Defined
7posit
6istribSupply_
5Events(be
5GetFee
5Heartbeated(b
5ICOsupply
5Manage(aaaa
5O
5ProclaimedDead(bba
5RandomNumber(a
6ecall(ba
8laim(ba
7funded(bbba
7moval(b
:ed(b
>d
7tireHodl(a
7ward
5SetPrizePool(b
5$sAllocated(a
;Burned(aa
6ransfer(bb
@a
=ed(bb
5Update(b
=b
5Withdraw
=$s(bba
;ewERC20$(ba
5_Changed(b
5sBySpinner(aa
6ProductAdded(bab
=CommissionChanged(a
6hipAdded(bb
9Change(bbd
?d(bb
9Deleted(bb
:istributed
9Granted(b
Bb
9Requested(bb
Ed
;voked(bb
9;(bb
Bcbb
ACanceled
Bompleted(b
Cnfirmed(bb
AInitiated(b
APending(bb
Broposed(bb
Aed(b
Ared(b
Fb
Egg
1x$Initialized(b
1zreal
0P3D!
1ACK_SIZE
2GE_SIZE
2NIC
5PERIOD
2PER
2RSECS_PER_ETHER_BASE
8TOTAL_AMOUNT
6_CREDITS_MINIMAL_AMOUNT
?PER_ETHER
=_DECIMALS
3TICIPATION_FEE
4NERS
8_ADDRESS
9SHARE
9WALLET
7_SALES
9UPPLY
4_REWARD_CHANCE
2TCH_VERSION
2USED
2YOUT_ATTEMPT_INTERVAL
7DATE
7FRAC_BOT
<TOP
7PCT
7TIME
1BTTForGas
1CDStart@
1ELOMemberIDMap(i
:Map(b
2P
2RCENTAGE_OF_TOKENS_SOLD_IN_SALE
;PRECISION
7_100
8BONUS
8COMMISSION
8DELIMITER
9IVIDER
<SOR
8RATE
4_DIVISOR
5TOKENS_TO_BIZDEV
?DEV
?INVESTOR
?RELEASE
3FORMANCE_FEE_RATE
3IOD
6_AFTERSALE_NOT_TRANSFERABLE_IN_SEC
7BLOCKS
3MISSIONMANAGER_KEY
3SONAL_CAP
9FIRST_HOUR_CAP
3_ACCOUNT_ADDITIONAL_TOKENS
4USER_AMOUNT
9MAX_AVATAR_COUNT
1FC
3CContribu~
1GO_INTERNAL_RESERVE_CAP
4UNLOCKED_LIQUIDITY_CAP
2UC
1HASE1_ACCOUNT_TOKENS_MAX
7END
7RATE
7START
<_TIME
8UPPLY
52_END
7RATE
7START
<_TIME
8UPPLY
53_END
7RATE
7START
<_TIME
8UPPLY
54_START_TIME
55_START_TIME
5_1_PRICE
62_PRICE
63_PRICE
64_PRICE
65_PRICE
6CHALLENGE
7LOSED
6DURATION
6NUMBER
6OPEN
2N
2OENIXES(a
7_CORSAIR
?_EXTRACTION_BASE
@FTL_SPEED
@MAX_CARGO
8POOL
2XTKN
6ADDR
1ICOPSCertifierUpdated(bb
2N_PRICE
2OE
2P
2XEL_COUNT
1LANET_PRICE
3T
4AMOUNT
4FORM_DEVELOPMENT
9FEE_PER_10000
=RATE
:UNDING_SUPPLY
9GROWTH_VESTING_AMOUNT
9MONTHLY
9WALLET
4INUM_AMOUNT_NDC
@SKL
@TPT
@XPER
4price
3YERWIN
6_METADATA
7START_PERIODS
7TIMEOUT
8URN_SINGLE_PERIOD
1OHStart@
5op@
2INTS_TO_LEVEL
2LY
2OH_TO_CALL_1PLUMBER
3LS(a
4_FEE
2S!
3TSALE_START
4_ICO
3V
2WHclone
3M
3R
1PBC_API
5Ether_Claim
1RCT100_D_TEAM
8ETH_OP
8R2
9_TEAM
4_BOUNTY
5ETH_OP
5TEAM
2EBUY_PORTION_MAX
3CISION
4OMMITMENT_VESTING_SECONDS
3ICO_BONUS
7HARDCAP
7PERIOD
6start
4SSUED_AMOUNT
3MINER_ADDED(bba
9CHANGED(bbb
7_ALLOCATION_ADDED(ba
8RELEASE(baa
5UM_CATEGORY
8SALE_PACK_COUNT
8TYPE_COUNT
3PURCHASER
3SALE
7PLUSCROWDSALE_EVE
7RATE
7S
7TOKENMAXSALES
7_BALANCES
:SE_PRICE_IN_WEI
9ONUS
=_LIMIT
>PERCENT
>VOTING
8CAP
9LOSING_TIME
9ONTRACT
8END
;TIMESTAMP
;_DATE
<TIME
@STAMP
9THER_MIN_CONTRIB
;_CAP
<IN_WEI_ACCEPTED_MIN
CFUND_MAX
<RAISE
8HARDCAP
9OLDER
8ICO_PORTION
8JOINTTOKENS
8LENGTH
:VEL_1
>2
>3
>4
>5
9IMIT
8MAXIMUM_FUNDING
;_ETH
<RAISE
9INIMUM_FUNDING
;_INVEST
8OPENING_TIME
8PERCENTAGE_1
C2
C3
C4
C5
;IOD
9RICE
8RATE
9ESERVERED_AMOUNT
8SECOND_DAY_START
9TAKE
;RT
=TIMESTAMP
=_DATE
>TIME
>WEEK1
B2
B3
9UPPLY
8THIRD_DAY_START
9OKENCAP
=_ALLOCATION
>CAP
>HARD_CAP
>IN_WEI
>SOFT_CAP
?UPPLY_LIMIT
8VAULT_START
8WALLET
9EI
;_CAP
<GOAL
<WITH_BONUS
4OLD_ADDRESS
8TOKENS
4S_MARKETING
3TDESupply
<Remaining
3VIPdeadline
3_BONUS
4COIN_PER_ETHER_ICO
5ROWDSALE_CAP
>DURATION
4DURATION
4FUNDING_GOAL
4ICO_ADDR
9MOUNT
8BONUS_PERCENTAGE
>RATE
>TIME_1
C2
C3
8DURATION
8END_TIME
8FINISH
8LIMIT
8MAX_CAP
<TOKENS
9IN_CAP
<DEPOSIT
8ON
8PERIOD
9OOL
8RATE
9ISK_PERCENTAGE
8SINCE
9LGN_LESS
9TART
=_TIME
8TIER
<_FIRST
=LAST
:LL
9OKENS_AMOUNT
4MAX_CAP
4SALE
8_1000_ETH
:5_BONUS_MIN
:WEEK_BONUS
920_BONUS_MIN
:WEEK_BONUS
93000_ETH
<_ETH
;_BONUS_MIN
<ETH
:WEEK_BONUS
94WEEK_BONUS
9BONUS_PERCENTAGE
B_CENT
9CAP
9END
<_TIME
9GMRP_TOKEN_CAP
<_TOKEN_CAP
9MAX_CAP
:IN_BUY
=ETHER
9PERCENT
:RICE
9SOFT_CAP
:TART
>_1
?2
?3
?4
?TIME
9TOKEN_CAP
;TAL_TOKENS
2ICE
5R_DELAY
5_1
70
71
62
63
64
65
66
67
68
69
6AFTER_SOFTCAP
6BEFORE_SOFTCAP
7TCS
6CHANGE_ENDING_TIME
=TIME_STEP
7ROWDSALE
7UTOFF
6EXPONENT
6FACTOR
6ICO1
92
94
7NCREASE_SCALE
6MAX
7ID
8N
7ULTIPLIER
6PREBUY
<_BONUS
9ICO
9SALE
=_START
>WEEK1
B2
B3
6RATE_FIRST
<OURTH
;LAST
;SECOND
;THIRD
6SALE
7TAGE_FOUR
@_BONUS
<ONE
?_BONUS
<PRESALE
<THREE
A_BONUS
=WO
?_BONUS
9NDARD
6VARIABLE
3MARY_START_PRICE
4ES(a
5_VESTING_DATE
3ORITY_ADDRESS_LIST
9SALE_START
3VATE
7PLACEMENT
7SALE_BASE_PRICE_IN_WEI
<END_DATE
<START_DATE
=UPPLY
<TOKENCAP
<USD_PER_MSENC
7_ADDRESS
8PHASE
8SALE
<_ACCOUNT
=LIMIT
=MAX_ETHER
=POOL
>RICE
=TOTAL
9TAGE_FINISH
>MAX_CAP
>START
9UPPLY_ADDRESS
3ZE
5_POT_PERCENTAGE_MAX
6TOKENS
2NG_Challenge
2OBABILITY_DIVISOR
3CESSBY
3JECTOPERATION_SUPPLY
3METHEUS_MAX_PRICE
;PRICE_INCREMENT
ATHRESHOLD
;SHIP_LIMIT
@PRICE
;VOUCHER_LIMIT
CPRICE
4OTION_ACCOUNT
:PROGRAM
6ORS_POOL
5_CREATION_LIMIT
6TOKEN_AMOUNT
3OF_MULTISIG
6TOKEN_WALLET
3POSED_STATUS
3VISIONING_supply
1SM_PRICE
2_PRICE
1T
1UBLICSALE
:_ENDTIMESTAMP
;STARTTIMESTAMP
;USD_PER_MSENC
6_CROWDSALE_CAP
ASOFT_CAP
7MAX_CONTRIBUTION
7OFFER_SUPPLY
7RESERVED
?_PERSENTAGE
7SALES_1_PERIOD_END
?RATE
=2_PERIOD_END
?RATE
=3_PERIOD_END
?RATE
=SPECIAL_USERS_RATE
;_END
<LIMIT
<PRICE
<START
<TOKEN_CAP
8TART_TIME
7TOKENS
2RA
3CHASER_MAX_TOKEN_CAP
G_DAY1
;IN_TOKEN_CAP
8S_BONUS
8_AMOUNT_CAP
@RATE_REFERENCE
@UNIT
9DIVIDER
9PREMIUM_RATE
1VE_BATTLE
4COMPENSATION
2P_BATTLE
4INTERVAL
2T_INV_TOKENS
1YRToEth
1aid(b
6a
7aa
4Out(bb
3nt(aW
2nicked(b
2per
2rallelGambling
4meterSet(cc
9sChanged(aaa
5s(aa
3entFee
6s
3tComplete
4ial20Send
83Send
9;
78Send
8;
7Funds;(a
7Payment(abba
?bba
7lyForgived(bba
5cipantAdded(baa
;Joined(ekib
9te(a
<ba
;dInVoting(bbda
4nerPresale
7Url
7s(a
8Fund
8NotSet(a
4y(ba
2ssCommitteeRoom(b
6ntractorCreator(<PassDao><PassProjectCreator>
4Dao
4HasBeenSet(d
4ed(bb
6Gateway(ba
2tronOneWithdrawal
6ThreeWithdrawal
7woWithdrawal
3tern(d
7s(ba
2use
5(a
6f
5Event
5ICO
6co
5OwnerAdmin(f
5Payment
6ublic(f
5Refund
5Sale
5$&
6radable
5d
2wsCoin
2y
3(a
4b
5a
3Ether(baa
3ForServiceCHL(a
@Event(ba
=ETH
@Event(ba
3Interest(ba
3Jackpot
3Miners
3NihilumTo&
3Out(a
7ba
3Poker(cc
3RollHistory(b
3To&
5kens(baa
3Winners(ab
;bbb
6s(b
3able(ba
3data(baja
3eeWithdrawCapital(ba
=Interest(baa
4rStatement(c
7ringUpdated(c
3gineHasDeployed(a
3ment(aa
8ba
:a
9baa
<bea
7Accepted(bua
8uthorized(aba
8vailable(ba
7Canceled(a
8ompleted(baa
7Executed(aba
9pecta~Cancelled(u
=ed(u
7Finished
8orTest(ba
:warded(banb
?r(bb
7Got(f
7ManagerUpdated(bb
7Processed(baa
7Received
9funding(abac
9jected(bua
7StatusBlockNum(b
=@Stamp(b
8ubmitted(bua
7Withdrawn(aba
7sProcessed(baa
3out
6(a
8a
9a
8f
7ba
8baaf
6Dividends(aa
6Earnings(bae
7vent(aba
6Increased(aa
6QueueSize
6Redemp~(aaa
6s(afbaa
1eerBet
2gETHUSD(a
2nalty(ba
3dingApplica~(bac
7ETH
:s
;(g
7Fees(b
7Owner
<ship;(bb
2rformAirDrop
7ingDrop(a
:MonthlyMinting(a
3iod
6Changed(aa
>e
6End(kal
6OfAccount(ba
6Reset(aaaa
6Started(aaaaaa
3missionAdded(b
:Removed(b
:ed(bbf
3sistLimitChanged(a
4onalInfoAdded(bccccccc
2ti~Shareholders(a
1hase1Account$sMaxUpdated(a
5Switch(e
2ilanthropy(bcaaaaa
2oenixExchangeDeposit
?Fund
7Fund
;Deposit
3toAdded(bb
1iBetaSupply
2cAdded(babd
2eceSold(bba
5;red(abb
2ggyBank
2lfered(aaa
2nCode
3ged(ba
7c
2xel
5Bought(adabb
5Color(kkbK
5KeyToPixel(a
5Map
5^(kkba
5Selling
5;(kkabb
5Update(ie
1laceBet(aj
6uy(bbaaa
5NewForecast(dddX
5RocketForSale(iH
BEvent(biH
5Sell(bbaaa
9Order(aa
?ia
5d(aeb
3tformAutonomyAddr
8Informa~
3y
4(a
5bAa
6aaaa
5c
5e
6eee
5f
4Now
4Referred(eeeeb
4SimpleGame(ef
4er(biiiiaa
7d
6=(baa
>eaa
7et(aa
:baa
6Cards(ba
7reated(ba
>eba
6IDsArrayForMapping(a
7ndexToApproved(a
=Owner(a
8fo(a
:PerZone(aa
6Round(b
6Tickets(baa
7ransported(abaa
6Won(a
2easePayMe(aa
3dgeNotPayed(a
6Payed(a
9mentCanceled(a
3num(ea
2otSale(aabbaf
4TerrainUpdate(aabad
2usOnePonzi
3tocracyAchieved(cc
1oS
3PerCent
3$
2WH4DSupply
2interChanged(e
2kerPayout
;Value
5Winner
2lice_1
72
73
74
75
3lCreated(aaaa
<bb
3yCompliance
5ustomers
2nged(ac
3yIndexToApproved(a
;Owner(a
3zICO
4i$V3
2olAdvisors
4Bounty
4Created(eaa
4ICO
4Joined(ebaa
<eaa
4PreICO
6ize(eeaa
4Submitted(ba
4Team
2rtfolioContent(aaa
2sRewards
3i~Bought(aaabaa
6veWhuffiesSent(bbac
3t(bcc
4Added(b
4Completed(bb
4Wish(bajjaa
2t
3Owner
3Payout
3ential_Investors(b
1rakashcoin
3y4Prey
9(<uint128[]>p
2cntRate
2eBuy(a
3CrowdAlloca~
3ICO
6Hardcap
6Part
7rice
9vateClosed
=Opened
8oxyBuyer(baa
Da
7ublicClosed
<Opened
6$Pushed(ba
4coClosedManually
6Message
6Supply
6|
6_Cap(b
6bonusEnds
3SaleBuy
:(b
7Close@
<d
8omplete(b
7Deadline
8istributed
7Finished
7HardCap
7Limit
7Minting(ba
7Paused
7Ready
9sumed
7Sold
8tart
<@
<ed
7$Soldout
3TgeDisable
6Enable
3commitmentAdded(ba
3ferentialRateChange(ba
3gnant(baaa
3icoClose
3mium(b
3paid$sClaimedEvent(baaa
5reDraw
7ForSale
7Roll(a
;Event(ba
Ca
Da
7ToStart(caaabb
4urchased(baa
@na
3sale
7(</*uint256>ab
8aab
8baa
71Sold
72Sold
7Added(baa
:ress
8lloca~(baa
7CapChanged(ba
:Updated(a
8laimed(a
9osed(aa
>f
8ontribu~(ba
7DiscountPercentageChanged(be
:tribu~(bba
7EDUSupply
8nd(a
:@Changed(a
9try(ba
8xtended(a
7FallBack(a
8inalized
@(a
:ished
8undCollector(baa
7Purchase(bba
7ReStarted
7Start(a
<@Changed(a
<ed(a
7@RangeChanged(baa
8oken(b
>b
<Purchase(bbaa
7UnlimitedStarted(a
8pdated(aa
4s(aa
4tigeUp
3vOwner
4iousGuesses(a
8Payout
8@
2ice
5(a
7a
8a
6c
7a
5Accepted(aa
6djusted(aa
5Change(aa
;d(a
>a
>b
>l
=baa
=ca
5Decimals
8rease(cab
5HKGChange(aaa
5Increase
=(cab
5Manual
5Of1000$sInUSD
6neDisable
8Enable
5PerCafe
5Return(an
5Set(a
:a
9cle
6trategy
5ThreeDisable
:Enable
6woDisable
8Enable
5Update(a
=a
=b
;d(a
5WeekFour
9One
9Three
:wo
5sUpdated(baa
3nt(ca
7b
5WinningInfo(daa
5ln(biaaafi
3sm
3vateCoinSupply
7Investment
7SaleBuy
>(b
;Finished
;_Cap(b
3ze(cac
5Awarded(aba
5Fund
5Paid(ca
5ResultCalculated(ah
5s
2oICOHardcap
6^
3cessDraw
7Game(aa
;Ext(a
;s(hf
7Markings(daaa
7Payroll(ba
7Rooms
7Transac~(a
8xFee
7VoteTotals(aa
7ed(b
9Investment(baa
9VotesByProposal(a
3duce(a
9c
6t
7Added(bbbcf
7Updated(bbbcf
3fitContainer(b
?Adapter(bbb
6Delivered(ba
6Loaded(ba
6Withdrawn(ba
3gress(aa
3ject
7Call(ba
7Descrip~Updated(bcd
7Fund
7Kudos
7Manager
7s(a
3missory$(<>ba
4o~CoinMintFinished
3ofOf
7CraigGrant
7Existence
7Idleness
7Ripple
7StableCoin
5_of_Stake
3pertySet(b
=dd
4osal(bac
8Add(abc
;ed(a
?ac
Ad
?b
@aabaa
Ac
Afc
Aj
@c
Aa
>baacd
?ba
=Event(abac
8Cloned(aaacd
;sed(aaaafa
@eaafaa
8End(ac
9xecutedEvent(a
8IdByHash(d
8Log(a
8Passed(bba
8RequestSubmitted(daacb
8Submitted(aabaacbaa
Bba
8Tallied(aaaaf
Cf
Bf
Afa
Amaf
?Event(aff
8s
9(a
9ById(a
9Entity
6eMint(ba
3spectorsObliga~$
6rity
3tectTheCastle
7edReclaim(bba
9;(bbad
9Unlock(bba
3xy
5Buy(dba
5&
6reated(bb
5Management&
5Payment(bb
5Sender(b
1ubAccepted(b
3KeyHashAdded(re
:TypeAdded(e
3Registered(b
5jected(bc
3keyChanged(ddd
3lic
6Mine
:CallsCount
:d(ba
9ingReward
<Supply
6Presale
6Resolver(<AbstractENS>
?b
6SaleWhiteListed(b
7old
6$Released(a
6_Sale_SUPPLY
5sh(acccf
7WinnersScoreThres(k
8orldCupResults(dddX
7erParametersChanged(b
9Registered(b
?ryReplaced(bb
9Unregistered(b
2llPaymentCapable
4RequestAlreadyClaimed(aaf
;Claimed(aa
2naniSupply
3kBidEntered(aab
7Withdrawn(aab
5ought(aabb
4NoLongerForSale(a
4Offered(aab
4;(bba
2ppyIndexToApproved(a
<Owner(a
2rchase(aaa
<a
<bba
:ba
9ba
;a
<a
;i
:baa
=a
8CapChanged(a
9onfirmed
8Failed(bae
@e
8Locked
8Made(bua
8Registered(dba
8Successful(ba
8$
8Unlocked
8d(ba
<a
=a
9$s(ba
7ingAllowed(f
3ge
2shData
4InvestorList(b
2t(a
4b
4d
5a
3Div(b
3Ether
3ForExchange(ba
4reeEther
3Gift(b
3_DEDI_gift(b
2zzled(bd
:d
1wdHasBeenSet(d
0Q
1Link$
1MQCoin
1NTUsdRate
1RL_$
1$(ba
1UARTERLY_RELEASE
2ORUM
3TE
5_ASSET
1baseIssued
5Talk
1uantityAvailable
8FactorSet(aab
8Initial
8Unit
5umPay
7$
2eens(a
3ryFrozenCoins(b
5Unlock@(b
3s~
8Is(cc
3ueIsEmpty
2ick^
3tcoin
3z(cc
4Ques~
0R1
12
1A(b
2FEND
2ISED_AMOUNT
2NDOMIZER_RETRY_COUNT
6_BYTES_COUNT
3GEEND_1
:0
:1
92
93
94
95
96
97
98
99
9PRESALE
5START_1
<0
<1
;2
;3
;4
;5
;6
;7
;8
;9
;PRESALE
5_SCALE
7TAT_MAX
2TE
41
42
43
44
4_CHANGE_THRESHOLD
6ORNERSTONE
6ROWDSALE_S1
@2
@3
5DAY_0
91
:4
921
:8
97
5ETH_CUE
9TXK
9WXW
6XPONENT
5FACTOR
6OR_WEEK1
=2
=3
5NO_DISCOUNT
5PRESALE
7IVATE
6UBLIC_SALE
5RATIO_SCALE
5SALESTAGE1
>2
>3
>4
>5
>6
>7
>LAST
6OFT
5TIER1
92
93
5WHOLESALE
3ING_EXPAND_INTERVAL
2VI_ADDRESS
6LLOCATION
2Y
1BC$
1CD
2N
2$
1DN
1EADME
3PER_INTREPID
?_EXTRACTION_BASE
@FTL_SPEED
@MAX_CARGO
2B
3ALANCE
3ELCOINSupply
2CEIVER
8_ADDRESS
9PAYOUT_THRESHOLD
3IPIENT
3ORDPart
3YCLE_TIME
2D
3EEM_METHOD
2FERER_PERCENT
5RAL_BONUS_LEVEL1
D2
D3
D4
D5
?PERMILLE
9PROGRAMS
9RATE(a
:EWARD_PERCENTAGE
9SHARE_RATE
9TOKENS
6ED_BONUS_PERMILLE
3F_TOKENS
3UNDSACTIVE
6_DIVISION_RATE
7LOCK_DURATION
7PERCENT
:IOD
8OLL_DURATION
7RATE
7TIME_FRAME
3_CREDITS_PER_AXIE
2GISTRATION_COST
3ULAR_CATEGORY
8RATE
8TYPE2
<3
<_COUNT
2IMBURSABLE
2KTMultiSig|
2LEASE
7_DATE
8END
9POCH
8GAS_FEES
8INTERVAL
8PERIODS
8START
8THRESHOLD
9IME
8WALLET
2MAINING_SUPPLY
2PLACES
3ORT_BUNDLE
3UTATION_DECIMALS
2Q
3UESTED_STATUS
7_CANCELED_BY_BORROWER_STATUS
DCREATOR
DLENDER_STATUS
8FOUNDATION_AMOUNT
8REJECTED_BY_HOST
4IRED
8_SHARES_TO_BE_BOARD_MEMBER
:IGNATURES
2S
3EARCH_AND_DEVELOPMENT_TOKENS_PERCENT
IWALLET
9DEVELOPMENT
4RVATION_CAP
6E
7D_BOUNTY_GROUP
@SIDE
:USINESS_GROUP
9COMPANY_GROUP
AUNLOCK_AT
9ECOSYSTEM_GROUP
9FOR_TEAM
9MARKETING_GROUP
9OTHERS_SIDE
9PARTNERS_LOCKED_SIDE
BSIDE
:RESALE_CAP
9RESERVE_GROUP
AUNLOCK_AT
9STAFF_GROUP
:UPPLY
9TEAM_LOCKED_SIDE
>SIDE
:OKENS_ADVISORS
ANGLE
@BACE_TEAM
AOUNTIES_ADVISORS
EY
@FOR_CRYPTO_EXCHANGES
EYNOTRUST
DFINANCIAL_INSTITUTION
EOUNDERS_AND_FOUNDATION
EURTHER_TECH_DEVELOPMENT
DICO
G_BONUSES
DPLATFORM_OPERATIONS
ERE_ICO
DROI_ON_CAPITAL
BUNDERS
H_TEAM
AUTURE_OPERATIONS
@ICO
@OPERATIONAL_EXPENSES
@TIQPIT_SOLUTIONS
;TAL_AMOUNT
9UTILITY_GROUP
7S_HOLDER
9SHARE
:TAKE
7_ADDRESS
9LLOWANCE
9MOUNT
8EXCHANGE_RATE
ASHARE
8FUND
8LOCK_TIME
8PERCENT_EVE
9OOL_ADDR
=TOKENS
:RTION
?_MULTIPLIER
8SUPPLY
8TOKENS
>_SUPPLY
=_AMOUNT
8WALLET
3TRICTED_PERIOD_DURATION
2TAINED_TOKENS
3_DIV
4MUL
2VEAL_PERIOD_DURATION_RATIO
3ISION
2WARD_SUPPLY
1HOC(ab
1ING_SIZE
2SK
4_LEVEL
2TUAL_COMPENSATION
1KCAcquired(baa
1LC
3PerETH
6SATOSHI
3SentToBTC
9ETH
2PReaderTest
1NG
1OB
3EthExchangeRate
3ReserveAlloca~
2CK
2LE_ADMIN
:ISTRATOR
5BACKEND
6OUNCER
6URN
5CEO
6ONTROLLER
7O
7RE
9_OWNER
6RO
5DISTRIBUTOR
5EXCHANGER
=_ADAPTER_OWNER
>OWNER
5KYC_VERIFIED_INVESTOR
5LOCKUP
5MANAGER
6INT
9ER
6ULTIOWNER
5ORACLE
6WNER
5PAUSE_ADMIN
6RICE_OWNER
5REGCF
8D
8S
7VIEWER
5STORAGE
<_OWNER
7RATEGY_OWNER
6UPERUSER
5TRANSFER
5UNKNOWN
5VENDOR
5WHITELISTED
>_OWNER
2UND_1_PRESALE_BONUS
62_PRESALE_BONUS
63_PRESALE_BONUS
64_PRESALE_BONUS
65_PRESALE_BONUS
66_PRESALE_BONUS
67_PRESALE_BONUS
6DATA_COUNT
7URATION
6LENGTH
6TIME
1PEICO_TOKEN_SUPPLY_LIMIT
3SALE_TOKEN_SUPPLY_LIMIT
1SPLT_E
6F
6G
6H
6I
1T
2okenBase(acce
?f
6Main(acceb
1_N_D_WALLET
1adiumSupply
2ffleIssued(aaa
6Result(aaabbbad
?b
@aaaaaabbd
Bd
@bbad
6_Entries(a
7Finished
7ID
7Prize
6d(aba
2isedByPartner(baaa
6Funds
2men&
2ndao
4om
6NumGenerated(l
9ber
<(a
<FromSeed(a
<Generated(ae
=uessed(ab
6ProofFailed(daa
2reAssets(a
4$
2te
41
50
42
43
44
45
46
47
48
49
4Add(b
4Change(a
;ba
:d(a
<baa
?a
4Delivered(aaa
4Eth
4Remove(b
4SetterChanged(bb
4Update(a
;cacc
:d(ada
<i
4_Eth
4sChanged(bii
3ing(bbm
2w;(bba
1cdGet
1eadBible(kkkk
3lTotalSupply
4ease@
4ize(a
4mSaleToBuyer(a
3per11
2buyInformEvent(ba
2call$sFrom&
3eipt(baa
5veBTC(ba
7Donate(ba
7Ether(ba
7Fund(ba
7GBP(ba
7Tips(ba
7d(ba
;a
;j
:ba
<a
:ja
8BCH(bac
9TC(ba
>c
=cac
8Call
8ETH(ba
>a
=ea
9ther(ba
8GBP(ba
8LTC(bac
8Ownership(b
8$s(babj
7r!Changed(b
?Set(b
8Changed(abb
6ing&$FallbackFailed(bba
3ievedAnonDona~(ba
8Dona~(bac
8Eth(ba
>a
;er(ba
8Tip(ba
4pientChanged(bb
9StringUpdated(c
9Updated(bb
Cb
3laimBegun
7PeriodChanged(aa
7ed
3o
4ncile(baa
4rd(bc
6Num
6States(d
4ver(ba
7ableController(bbaa
7ed(ba
7y(abb
9bbb
8Event(cb
8ModeActivated
8Quorum(bg
8WithTenant
2dEnvelope
3eem(a
8afba
7ba
9a
:a
7ccb
7i
6Event(ba
>aaa
6MTU(f
6Oraclize(a
6able(b
6ed(abba
9ba
;a
<a
9ib
7r(b
6ing@Limit
4mp~(baa
:|Updated(b
3irectChanged(ba
3uce(aa
5~(cbaa
2ederem(a
9c
8Event(baaa
2ferralBonus(bba
8Registered(bb
:warded(bbbaaa
8s(b
6edBonus$sEmitted(ba
8InvestorAdded(cb
Ci~(bb
7r(b
8Bonus$sTaken(ba
8Registered(bb
3illOraclize
3ound(ba
3und
6(a
7ba
9a
:m
8ba
7i
6Added(ba
7ll(a
6BTC(ca
6ChequeByHash(a
>Id(c
7ontribu~(ba
6Deposit(ba
6ETH(ba
7nabled(a
7rror(ba
7th(ba
7vent(baa
6IsAvailable
8sued(ba
6Loaded(a
6Manager
6PeriodStarted
6Received(a
8quest(aba
6Sent(aba
;ba
7ubmission(ba
8ccessful(bd
6ToBuyers
7ransfer(aaab
6_TrustlessTransac~(a
7user
6able
9y_if_gasprice_more50gwei_Send_Votes_From_Your_=(ba
6ed(ba
;a
:ba
8ETH(ba
8Investor(baa
8$s(ba
6ing
6sDisabled
7Enabled
2gBase(bdb
3Cost
3ister
8(abb
9b
:a
:f
9ec
8&
8Device
8Event(bb
8Key(bc
8List(gf
8Mine(ca
8NewKey(bb
8One(ibb
8Presale(baaf
8Seller(bcccc
8$Transac~(bab
9ransac~(ba
=ferBeneficiary&(b
9wo(bb
8Username(c
8Vote(af
8ed(b
<a
=aa
<baaa
<cb
<sc
;cabc
;dab
<b
:!(bf
:Campaign(bab
;ontract(cb
:Player(ba
;refix(cb
:$(babb
6ra
8ntApproval(b
:Removal(b
8r
9(<AbstractENS>da
:bda
8~(aaaaeeeec
<Antique(d
<Deposits(bb
<StatusChanged(bf
La
Maaa
7y
8!
2insureSeveralDeaths(f
4vest?
8|
8mentWithdrawal(ba
3ssue(a
2ject(b
8c
6ed(b
8Applica~(bac
2launchedCrowdsale(b<PricingStrategy>baaaa
4y
3easable?(ba
6e
7(b
9a
7AgentSet(b
7Date
;(a
;Changed(ba
7FundsAnd$s
<ToInvestor
7ICO
7Locked=(baa
7ManagerSet(b
7OfAccount(ba
8racle(g
8wnersLocked$s(b
7Supply(baa
7@Changed(baa
8okenForReserveFund
?TeamAdvisersPartners
<s(ba
7Update(aaac
7d
8(a
9ba
9d
8Changed(ff
3oadKeys(aa
=a
2main
6_burn(a
6ing$StockForSale
>sReceiver!
3iCoin(acce
3oval(ba
7^Set(a
5e
6Admin(bb
;istrator(b
7pproved!(bb
7uthority!(b
6Category(a
6Employee(b
6FromWhitelist(b
6Liquidity(a
7ock(ba
6Member(bb
7od(bbf
9erator(b
6Owner!(bb
6ProofOfOwnership(d
6RequestEvent(bb
7ocketForSale(i
CEvent(bi
6Share(baa
6$(b
7rusted(b
=&!(bb
6User(b
<b
6VerifiedInfo(d
6Whitelist(b
6d(d
7BlackList(b
7FromGenera~(ba
7$Holder(b
2nt(baaa
4al(b
4edBlock(aaaab
2payment(a
3laced(bb
5yProtec~
4y(dda
5Share(acfc
3ort(ca
4ssessionBounty(ba
5t(dda
3uta~Changed(bSS
;lear(bc
:Problems(bc
:Updated(caaccb
2questDetachment(a
AOnPause(a
7Event(bbi
7Info(lebabdao
7Refund
7Update(a
=d(a
7_Airdrop
8Dividends
7ed(b
;d
7profit
4ireDispose(b
7dFeeNotMet(aa
7mentChange(a
Ad(a
Dd
2scue(bba
6d(baa
3earchAndDevelopment
8GroupAddr
4rve
7Account
8ddress
7Fund
;?
7Known(fbaa
7Manager
7Supply
7$
7Unknown(fiaa
7|Updated(bb
7d(ba
:h
9db
8!(a
8$sDistributed(bea
7sForExchange$sPercent
I|
4t
5(aaa
5Airdrop(a
6ll?
5&
5Ponzi
3igned(b
4lience
3olu~Added(bacc
:ProposalSubmitted(aabcc
Bs
C(a
5ve(fa
7d(baaf
7rNode
4urcesOwner(eb
3ponse(da
3tart
7(a
4itu~_Historique_Transac~s(b
4oredInvestment(ba
3ult(A
7aba
7bc
7dba
:f
6sByProposalId(a
7_of_the_last_round
4me
6EmergencyStop
6ICO
7co
6Payment
6$AllOpera~
;&
2tRisk(n
3Static(n
3ained(b
3ired
3rieve(cb
8Commissions
8Data(a
8Funds
3urnChametz(baa
7ode(e
6EthersFor(ba
6FundsFor(b
6Requested(bb
6ToOwner(ba
8ken(a
;sFor(bba
6ed(a
2veal(aba
6ed(ae
4rseBugBounty
7ConfirmTransac~(a
>ed(cb
7Proposed(cb
7Registrar(<AbstractENS><Resolver>
Abd
9moved(cb
6ibleDemo
3ision
3oca~(ba
5e
4ke(b
8a
8d
7dab
6!Changed(b
6Bid
6Event(bbi
7xchanger(b
6Grant(ba
6d
7(b
9b
8f
2wAddr
3ard
6(aba
7ba
9aa
8baca
6Bonus@Period
6Claimed(aba
>ba
6End
6Halved
:ing@Period
6Pool!
;mount
6Recycled(abaaa
6Split(a
7tart
6@Period
7ransfered(abaaa
6s(d
7_Supply
1iddle
2goBlock
2ptoBux$
2sk
4^
9(n
;nnn
9s(<uint128[]>
;g<uint128[]>
1nMmasterReq
1obinHoodPonzi
2ck
4PaperScissors
2gisterToVoteOn;(b
2leAdded(bc
4Removed(bc
3l(aa
4Count
4Dice(baaa
4Event(baaaa
4Lottery(l
4backed&(abb
2ulette
3nd
5AHardCap
6Sold
5BHardCap
6Sold
6etStarted(aa
5CHardCap
6Sold
6hanged(a
6lose(aae
<ead
6reated(aaaa
5DSold
6ona~(a
5ETH(a
6nd(a
8@
8ed(ba
5Finalized(a
5Heart(a
5Id
5LastDona~Man(a
9GreedyMan(a
5MyDona~(ab
7Heart(ab
7PayMask(ab
7ticket(ab
5Number
5Open(aa
<a
5PayMask(a
5RevealStarted(aa
5Set(lb
6tart(a
6ubmission(a
5@
9(a
6oken
5Winner(aaba
<ba
5s(a
2yaltyInforma~&Set(bbf
7sOwing(b
1pct
1ubidSupply
2dys$
2lesChangedEvent(aaaa
5ProposalSubmitted(aaaaaaaaaa
2nIco
3Sale
3ningAuc~sEvent(baaa
2rchase(baa
0S1
12
1AC
2FE_PERIOD
2GA
2LE
40_CAP
6END
6RATE
41_CAP
6END
6RATE
42_CAP
6END
6RATE
4S_ALLOCATION_PPM
6DEADLINE
7URATION
6END
6START
7UPPLY
4_1WEEK_BONUS
52WEEK_BONUS
53WEEK_BONUS
54WEEK_BONUS
5ALLOCATION
5CAP
8_IN_USD
9USD
5DURATION
5END
8ED
8_DATE
9TIME
6THER_MIN_CONTRIB
5FUND
9S_ADDR
5IN_PROGRESS
5LENGTH
5MAX_CAP
6IN_BUY
9CAP
5PRICE
5RATE
5STAKE
8RT
:_DATE
;TIME
7EP
6UPPLY
5TOKENS
;_SUPPLY
5address
3T
2TS_TO_TOKENS
1BSolu~s
2T
1CADA_requires_hard_cap
2ComplianceService
2Escrow
2HEMA_HASH
2ISSORS
2ND_CRWDSALE_RATIO
2ORES(a
5_REPORT_START_TIME
6TO_WIN
6UNITARY_SLASH
2RefundVault
2$s
2Whitelist
2_locked
1DT$
8(acc
1ECCoin
7Sold
3ONDS_BETWEEN_ROUNDS
8OF_DAY
6_AUCTIONS_INITIAL_PERCENTAGE
7PHASE_MAX_SPAN
=PRICE_FACTOR
7ROUND
<_RATE
7SUPPLY
7TIER_DISCOUNT
<RATE
<SALE_START_TIME
7USER_CUT
7VOLUME_BONUS
>EXTRA_BONUS
3RET_BONUS_FACTOR
3URITY
8_ETHER_CAP
3_PER_ETHER
4contract
2EDS_TO_HATCH_1RICE
3LE_TOTAL_SUPPLY
2HR_WALLET_ADDRESS
2LFDESTRUCT_DELAY
3LER_CHECK_STEP(d
7STEP_1_OPEN
<2_GET_PASS
<4_ACCEPT(d
4_HARD_LIMIT
5SOFT_LIMIT
2NC_CONTRACT_ADDRESS
5HARD_CAP
3DER_BALANCE
4ING_BLOCK
3S_PER_ETH_BASE_RATE
2PARATOR
2RVER_TIMEOUT
2TUP
5_DONE
1FI
2T_PER_ETH_BASE_RATE
<FIRST_EARLY_BIRD_RATE
<SECOND_EARLY_BIRD_RATE
1GE$
2T
2X_ADDRESS
1HA256
6(c
6HashRegister
B(d
6ofArtwork
33_512
3RDING_REWARD
4EHOLDERS_SHARE
5PERIOD
5_BOUNTY
6CRYSTAL
6FOUNDATION
6PURCHASERS
6TEAM
2IP_SLOTS
2NZ
2ORT
1IGMA
5_EXTRACTION_BASE
6FTL_SPEED
6MAX_CARGO
2LVER_AMOUNT_NDC
>SKL
>TPT
>XPER
2NGLE_BLOCK_LEN
7SALE_MULTIPLIER
2SA_token
2ZE
1LOTS
1MALLEST_TOKEN
2ILO_COMMUNITY_AMOUNT
6FOUNDATION_AMOUNT
;ERS_AMOUNT
6SALES_AMOUNT
2PAcquired(baa
2Tfund
7AfterPreICO
1NAILMASTER_INCREASE
2T
1OC
3XSentToETH
2FTCAP_ETH_LIMIT
8LIMIT
8RATE
8TIME
4_CAP
8ACITY
8_EUR
9IN_ETHER
<TOKEN
9T
2UTH_KOREA
1PAMed
3RC!
2ECIALIST_ONE
;STAKE_ONE
ATHREE
BWO
;THREE
<WO
4TRE_BOUNTY_ADVISORY_DEV_TEAM_ALLOC
3ED_STAT_MAX
2IDER_BASE_REQ
8OOST
3NFund
8Deposit
1QR_TOKEN
9_DECIMALS
:MULTIPLIER
2UAD_SIZE
3IRREL_BASE_REQ
:OOST
1SOTHEALTH_FUNDS_ADDRESS
2PParametersChanged(b
3Registered(b
9ryReplaced(bb
3Unregistered(b
1TAGE1_TIME_END
52_TIME_END
53_TIME_END
5S_PERCENT_RATE
5_1
7_FINISH
8MAXCAP
8START
8TIME
62
7_FINISH
8START
8TIME
63
7_FINISH
8MAXCAP
8START
6FOUNDATION
9R_ETHRaised
;TIME_END
6ONE_BET_LIMIT
:TIME_END
6PRESALE_ETHRaised
6THREE_ETHRaised
<TIME_END
7WO_ETHRaised
:TIME_END
3KEHOLDERS_POOL
5_BONUS_MIN_THRESHOLD
<RATIO
6DEADLINE
6MULTIPLIER
3NDARD
8_BUYIN
9RATE
3RT
5BLOCKTM
5DATE
5ING_ANTHILL
:SSET_BASE
9BANKER
;T
:ULLS
9CAT
:HICKEN
:LAIM_PRICE_WEI
:ROCS
:raigGrant
9DINO
:ragon
9FAIRY
;LCON
9HIPSTER
9KEBAB
:ILOS
9LOBSTER
9PACIFIST
:OOH
:RICE
9RICE
:ickAndMorty
9SEEDS
:HITCLONE
;RIMP
:NAIL
>_COST
<KE
:PERM
:QUIRREL
:TRIPPERS
:WORD
9TIME
:URTLE
?S
9VINES
5METADOLLAR
5TIME
5_BLOCK_NUMBER
6DATE
6ETH_TO_CENTS
6ICO
9_TIMESTAMP
6PREICO_TIMESTAMP
9SALE_TIMESTAMP
8ICE
;_IN_CENTS
6RATE
6SKO1_UNITS
6TIME
:STAMP
:_PRESALE
;SALE
7OKENS
7S
6WEEK_1
;2
;3
;4
3TEMENT_HASH
5_BET_DISABLED
:ENABLED
6CLAIM_ENABLED
6DONATION_ROUND_1
E2
6INITIAL_BIDDING
6NOT_FINISHED
:STARTED
6OWNED
6PAYOUT
7LAYING
4S_SIZE
4US_DEAL_APPROVE
<RELEASE
<WAIT_CONFIRMATION
9STROYED
7INITIAL
7LENT
7NO_DEAL
7PAID
4_COUNT
5MAX
2O
3RAGE_WALLET
4ES_TO_UPGRADE_1CENTER
3_KEY
2RATEGIC_PARTNERS_POOL_ALLOCATION
3C_ADDR
5SUPPLY
3IKE_PRICE
3TToEth
3egistrar
2Tadmin1
82
2UDToEth
1UBSCRIPTION_MODULE
2CCESS_BONUS
8FLAG
2FFICIENT_STATUS
2M
2NCOIN
2PER_HERO_MULTIPLIER
3PLY
6_CAP
7FOR_ADVISORSL
;BOOUNTY
;MARKETING
;PARTNERSHIPS
;REFERAL
=SERVE
;SALE
;TEAM
7LIMIT
2V_TYPE
1WAP_CAP
5LENGTH
1YLVIe
2MBOL
2STEM_CREATION_LIMIT
1addleFS(a
7orSale(aa
6NotForSale(a
6Pr(a
6ShopForBiding(a
=Sale(a
:O(a
:^(a
:SaleFee
6_Limit
2feCondi~alHF;
4Deduct(aa
4Guard(rak
4Locked(a
4Math
5odeActivated(b
4Sender
4$
2id(bj
2le
4(aabb
5ba
7a
8aca
5cab
4Aborted(a
5ctive
5uc~
4CapReached
5losed
:(a
5omplete(b
<d(baa
6unt
4Deadline
4EDUSupply
5nd
7ed
9(a
:ba
4Failed
5inalised(bba
:zed(ba
7ished
<(a
4HasEnded
4IsLive
4New
4OfChametz
5pen
4Pause
9d
4Resumed
4Scheduled(aa
5tageUp(ma
7rt
9ed
;(a
=aa
7tus(ca
6op
8ped(ba
5ucceeded
6spended
4$
4Unpause
4|(bab
5indowUpdated(aa
4s
5AgentAppointed(bb
:Permissions;red(bb
:Removed(b
5|Updated(bb
2ve
4AccountBuyingGodz(ba
1caleFactor
3n(gh
3rcecoinStart
2heduled(aa
8r
4ngencoin
3mecklel$
2issors
2ope
1eckeyRevealed(d
3ond!=
6LevelCost
3retNoteUpdated(bdf
7umber
3torUpdated(kbcccf
3urities_1
;2
;3
;4
;5
7yDepositCreated(abcca
?RegistryReplaced(bb
8$(ccaebaaebbb
8_AddPasswordSha3HashToBankAccount(d
9ConnectBankAccountToNewOwner!(ic
9GetNumberOfAttemptsToConnectBankAccountToANewOwner!
9HasPasswordSha3HashBeenAddedToBankAccount
2edLog(bda
4Market(aa
2lfDestruct@
3l(a
5ba
7a
6ba
8a
5dbaabb
4Acorns(a
4ENS
7Created(b
5ggs
4Loan(aa
4Order(abaaaa
:ba
<a
:dbaab
9Canceled(ib
9Placed(ib
9s(ba
:Of(ba
4^Changed(a
4RateChanged(aa
4$
9ToRaj
9s
:(a
;baaa
4erCancelDisabled(d
7hanged(bb
6History(baa
6RequestedCancel(d
2nd"

end Listing
end EvmFlow
