import EvmFlow.Signature.Table.PartA
import EvmFlow.Signature.Table.PartB
import EvmFlow.Signature.Table.PartC
import EvmFlow.Signature.Table.PartD
import EvmFlow.Signature.Table.PartE
import EvmFlow.Signature.Table.PartF
import EvmFlow.Signature.Table.PartG
import EvmFlow.Signature.Table.PartH
import EvmFlow.Signature.Table.PartI
import EvmFlow.Signature.Table.PartJ
import EvmFlow.Signature.Table.PartK
import EvmFlow.Signature.Table.PartL
import EvmFlow.Signature.Table.PartM
import EvmFlow.Signature.Table.PartN
import EvmFlow.Signature.Table.PartO
import EvmFlow.Signature.Table.PartP
import EvmFlow.Signature.Directory
import EvmFlow.Signature.Listing

/-!
# The known signatures

The directory that names the functions of a contract.
-/

namespace EvmFlow
namespace Directory

/-- Texts that are listed although they do not have the form of a signature. -/
def irregular : List String :=
  [ "", ")", ",address)", ",uint256)", ",uint256,uint256,bool)", ",uint256,uint256,uint256)",
    "AbstractToken)", "BCAPToken)", "BirthdayGift,uint256)", "BranchWallet,bool)",
    "CCPayoutArb)", "Cashing,uint256)", "CoiniaVy)", "ContractBalance)", "Contribute,uint8)",
    "ContributeWithSender,uint8,address)", "Corporation)", "Custodial,address,uint256)",
    "Dao9000)", "DaoAccount,address)", "DaoAccount,uint256,address)", "DaoChallenge)",
    "EtherUnitConverter)", "FlightDelay)", "GetCert)", "GetContributionInfo,uint16)",
    "GetUserIdByAddress)", "MillionEther)", "MiningRig)", "MyReplaySafeProxy)", "MyTotalNTD)",
    "MyTotalWithdrew)", "OWPayoutArb)", "OrangeGov_Main)", "Owned)", "Payout)", "Presale)",
    "PresalerVoting)", "RaceFTW)", "Register,uint256)", "SellOrder,uint256,address)", "SetAddr)",
    "SetCert,bytes32)", "SetProfitAddr)", "SikobaPresale)", "SpendingRequest)", "StandardToken)",
    "Take)", "Thanks,address,uint8,uint8)", "ThanksInternal,address,uint8,uint8)", "TriWallet)",
    "Unregister,uint256)", "VerifCert,bool,bytes,bytes)", "VerifSignature,bytes)",
    "WHAuthorizeAddress)", "Withdraw)", "__callback,string,bytes)", "_api_PlaceBet)",
    "_api_PlaceBet,bool)", "_delete_)", "_maint_EndPromo)", "_maint_setBlockLimit)",
    "_maint_updateOwner)", "_maint_withdrawFromPool)", "accountFor,bool)", "addProjectManager)",
    "addTreasuryManager)", "adminContractSecurity,bool,bool,bool)",
    "adminContractSettings,address,uint256)", "allowance,address)", "allowance,address,uint256)",
    "approve,uint256)", "assignImageID,uint8,uint256)", "balanceOf)", "butttoken)",
    "buy,uint256,bool)", "buyBlock,uint8)", "buyBlocks,uint8,uint8,uint8)", "buyTokens)",
    "bytesToString)", "calculateRandomNumberByBlockhash)", "call)", "called)", "can)", "cancel)",
    "challengeWorldRecord)", "changeId)", "changeName)", "chargeForImagePlacement)",
    "cmp,uint256,bool)", "cmpEq,uint256,bool)", "conclude)", "createAccount)",
    "createGame,string,uint16,uint64)", "createSale,uint256)", "decreaseApproval,uint256)",
    "deposit)", "distribute)", "emergencyRefund)", "execute)", "execute,uint256,bytes)",
    "extend_life_of_contract)", "for)", "for,which)", "freezeTransfers)", "fund)", "game)",
    "getActivationTime,uint256)", "getActiveGames)", "getAreaPrice,uint8,uint8,uint8)",
    "getBalance)", "getBlockHash)", "getBlockPrice,uint8,uint256)", "getCapital)",
    "getGameId,string,string,uint16,uint64)", "getGameId,string,uint16,uint64)", "getMembers)",
    "getMessage)", "getParticipantByAddress)", "getParticipantById)", "getParticipantCount)",
    "getStateInfo)", "getTokenBalance)", "getUserAddressByID)", "getUserInfo)",
    "get_available_interest_amount)", "get_balance)", "get_term_deposit_end_date)",
    "goesToCharity)", "greeter)", "has)", "in)", "increaseApproval,uint256)",
    "insert,int256,int256,bool)", "insert,uint256,uint256,bool)", "instead)", "investInCharger)",
    "is,birthday,etc.)", "isMember,address)", "issueTokens,uint256,uint256)", "kill)", "lock)",
    "madrachip,string,uint8,string)", "moveOldUser)", "mul,uint256)", "myAccount)",
    "ownerAddBankroll)", "payOut,address)", "placeImage,uint8,uint8,uint8,string,string,string)",
    "pow,uint256)", "query1_fnc(uint256,string,string,function()",
    "query2_fnc(uint256,string,string,string,function()",
    "queryN_fnc(uint256,string,bytes,function()", "recovery)", "recovery,address)",
    "refundToOwner,uint256)", "registerEarnings)", "release)", "resign)", "returns)",
    "safeAdd,uint256)", "safeMul,uint256)", "safeSub,uint256)", "sell,uint256,bool)",
    "sellBlock,uint8,uint256)", "sellBlocks,uint8,uint8,uint8,uint256)", "send)",
    "send,uint256)", "setGameResult,int256,int256)", "setHome)", "setIndustry)",
    "setLimited,bool)", "setName)", "set_deposit_fee)", "show_me_the_money)", "signIn)",
    "small_payout)", "take)", "terminate)", "to)", "to,the)", "toYMD)", "totalSupply)",
    "trade,uint256,bool,bool)", "transfer,uint256)", "transferFrom,address,uint256)",
    "triggers)", "unfreezeTransfers)", "updateCapital)", "with,check)", "withdraw)",
    "withdrawAll)", "withdrawFee)", "withdraw_a_bit)", "withdraw_all)" ]

/-- Signatures listed under a selector that is not their own. -/
def misplaced : List (Nat × String) :=
  [ (0xb25f28a9, "exchangeRateInWei()"), (0xbd6577d4, "tokenSupply()"),
    (0xfee10120, "bakanceOfBeer(address)") ]

/-- The parts of the listing of known signatures. -/
def parts : List String :=
  [ Listing.partA, Listing.partB, Listing.partC, Listing.partD, Listing.partE, Listing.partF,
    Listing.partG, Listing.partH, Listing.partI, Listing.partJ, Listing.partK, Listing.partL,
    Listing.partM, Listing.partN, Listing.partO, Listing.partP ]

/-- All known signatures. -/
def known : Directory :=
  let regular : Directory :=
    parts.foldl (fun directory part => directory.addAll (Listing.signatures part)) {}
  misplaced.foldl (fun directory (selector, signature) => directory.insert selector signature)
    (regular.addAll irregular)

end Directory
end EvmFlow
