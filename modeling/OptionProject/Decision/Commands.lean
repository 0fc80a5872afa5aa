import OptionProject.Contracts.Canonical

/-!
# From approved signals to risk commands

`core/runtime/reference_execution_pipeline.py`: the transport of an approved signal into an
order command, and the adapter that the risk engine reads the command through.

## Main definitions

* `approvedSignalToCommand` — an approved signal as a command under the given order id.
* `CanonicalRiskCommandAdapter.getInstrumentKey` — what the risk gate takes as one instrument.
-/
namespace OptionProject.Decision
open Library Contracts

variable {F : Type} [PythonFloat F]

/-! ## The risk command -/

structure CanonicalRiskCommandAdapter (F : Type) where
  clientOrderId : String
  trackId : String
  assetType : CanonicalAssetType
  side : Side
  qty : ℤ
  price : F
  tagId : String
  optionType : Option CanonicalOptionType := none
  strike : F
  symbol : String := ""
  expiry : String := ""
  deriving DecidableEq

namespace CanonicalRiskCommandAdapter

omit [PythonFloat F] in
def fromCommand (command : CanonicalOrderCommand F) : CanonicalRiskCommandAdapter F where
  clientOrderId := command.clientOrderId
  trackId := command.trackId
  assetType := command.assetType
  side := command.side
  qty := command.qty
  price := command.price
  tagId := command.tagId
  optionType := command.optionType
  strike := command.strike
  symbol := command.symbol
  expiry := command.expiry

def getInstrumentKey (self : CanonicalRiskCommandAdapter F) : Except Raised String :=
  match self.assetType with
  | .option =>
    match self.optionType with
    | none => .error ⟨.valueError, "OPTION_RISK_INSTRUMENT_KEY_INCOMPLETE"⟩
    | some optionType =>
      if self.symbol = "" ∨ self.expiry = "" ∨ PythonFloat.isZero self.strike then
        .error ⟨.valueError, "OPTION_RISK_INSTRUMENT_KEY_INCOMPLETE"⟩
      else .ok (self.assetType.value ++ ":" ++ self.symbol ++ ":" ++ self.expiry ++ ":" ++
        optionType.value ++ ":" ++ PythonFloat.text self.strike)
  | .futures =>
    if self.symbol = "" then .error ⟨.valueError, "FUTURES_RISK_INSTRUMENT_KEY_REQUIRED"⟩
    else .ok (self.assetType.value ++ ":" ++ self.symbol)

end CanonicalRiskCommandAdapter

/-! ## Approved signals -/

/-- The order identity that the runtime supplies. -/
structure DecisionCommandContext where
  clientOrderId : String

omit [PythonFloat F] in
/-- The command that carries the data of a signal. -/
def commandOf (signal : CanonicalStrategySignal F) (clientOrderId : String) :
    CanonicalOrderCommand F where
  clientOrderId := clientOrderId
  trackId := signal.trackId
  assetType := signal.assetType
  side := signal.side
  qty := signal.qty
  price := signal.price
  optionType := signal.optionType
  strike := signal.strike
  symbol := signal.symbol
  expiry := signal.expiry
  tagId := signal.tagId

omit [PythonFloat F] in
def approvedSignalToCommand (signal : CanonicalStrategySignal F)
    (context : DecisionCommandContext) : Except Raised (CanonicalOrderCommand F) :=
  let clientOrderId := strip context.clientOrderId
  if clientOrderId = "" then .error ⟨.valueError, "CLIENT_ORDER_ID_REQUIRED"⟩
  else if signal.qty ≤ 0 then .error ⟨.valueError, "QTY_REQUIRED"⟩
  else if strip signal.trackId = "" then .error ⟨.valueError, "TRACK_ID_REQUIRED"⟩
  else if signal.assetType = .option ∧ strip signal.symbol = "" then
    .error ⟨.valueError, "OPTION_SYMBOL_REQUIRED"⟩
  else if signal.assetType = .option ∧ strip signal.expiry = "" then
    .error ⟨.valueError, "OPTION_EXPIRY_REQUIRED"⟩
  else if signal.assetType = .option ∧ signal.optionType = none then
    .error ⟨.valueError, "OPTION_TYPE_REQUIRED"⟩
  else .ok (commandOf signal clientOrderId)

/-- What the transport asks of a signal. -/
structure Transportable (signal : CanonicalStrategySignal F) : Prop where
  qty_pos : 0 < signal.qty
  trackId : strip signal.trackId ≠ ""
  symbol : signal.assetType = .option → strip signal.symbol ≠ ""
  expiry : signal.assetType = .option → strip signal.expiry ≠ ""
  optionType : signal.assetType = .option → signal.optionType ≠ none

omit [PythonFloat F] in
theorem approvedSignalToCommand_eq_ok {signal : CanonicalStrategySignal F}
    {context : DecisionCommandContext} {command : CanonicalOrderCommand F} :
    approvedSignalToCommand signal context = .ok command ↔
      Transportable signal ∧ strip context.clientOrderId ≠ "" ∧
        commandOf signal (strip context.clientOrderId) = command := by
  simp only [approvedSignalToCommand, ite_error_eq_ok, not_and, Except.ok.injEq, not_le]
  constructor
  · rintro ⟨identified, positive, tracked, symbol, expiry, optionType, same⟩
    exact ⟨⟨positive, tracked, symbol, expiry, optionType⟩, identified, same⟩
  · rintro ⟨⟨positive, tracked, symbol, expiry, optionType⟩, identified, same⟩
    exact ⟨identified, positive, tracked, symbol, expiry, optionType, same⟩

end OptionProject.Decision
