import OptionProject.Contracts.Types
import OptionProject.Library.Dict
import OptionProject.Library.Numerals

/-!
# The payload of a futures order

`environments/live/broker/kis_order_payload.py`. A command that passes the checks becomes the body
of a request, a dictionary of texts. The price is written with two places.

## Main definitions

* `KisDomesticFuturesOrderPayloadAdapter.toPayload` — the body for a command.
* `decode` — the order that a body stands for.
* `ordered?` — the order that a command stands for.

## Main results

* `decode_toPayload` — everything but the price is kept, and the price up to a hundredth.
* `decode_toPayload_iff` — the orders that are kept.
-/
namespace OptionProject.Live
open Library Contracts

namespace OrderPayload

structure KisOrderAccountContext where
  cano : String
  acntPrdtCd : String

structure KisDomesticFuturesOrderPayloadAdapter where
  account : KisOrderAccountContext

def orderPayloadError (text : String) : PythonException := ⟨"KisOrderPayloadError", text⟩

/-- `text.upper()` for a comparison with `BUY` and `SELL`: beyond ASCII, only of the long s is an
upper case letter one of theirs. -/
def upper (text : String) : String :=
  .ofList (text.toList.map fun c => if c.toNat = 0x17f then 'S' else c.toUpper)

/-- `[A-Za-z0-9]{8}`. -/
def isEightAlphanumeric (text : String) : Bool :=
  text.length = 8 ∧ text.toList.all Char.isAlphanum

/-- `str(quantity)`. -/
def quantityText (quantity : ℤ) : Except PythonException String :=
  if maxStrDigits < (toString quantity).length then
    .error ⟨"ValueError", "Exceeds the limit (4300 digits) for integer string conversion; " ++
      "use sys.set_int_max_str_digits() to increase the limit"⟩
  else .ok (toString quantity)

namespace KisDomesticFuturesOrderPayloadAdapter

variable (self : KisDomesticFuturesOrderPayloadAdapter)

/-- The body of the request once all checks have passed. -/
def body (brokerSymbol side orderQuantity : String) (price : ℚ) : Dict String String :=
  .ofList
    [("CANO", self.account.cano), ("ACNT_PRDT_CD", self.account.acntPrdtCd),
      ("SHTN_PDNO", brokerSymbol), ("ORD_PRCS_DVSN_CD", "02"),
      ("SLL_BUY_DVSN_CD", if side = "BUY" then "02" else "01"), ("ORD_DVSN_CD", "00"),
      ("UNIT_PRICE", hundredthsText price), ("ORD_QTY", orderQuantity), ("NMPR_TYPE_CD", "01"),
      ("KRX_NMPR_CNDT_CD", "0")]

def toPayload (command : BrokerOrderCommand) : Except PythonException (Dict String String) :=
  if command.assetType ≠ some "FUTURES" then
    .error (orderPayloadError "FUTURES_ASSET_TYPE_REQUIRED")
  else
    let brokerSymbol := orEmpty command.brokerSymbol
    if brokerSymbol = "" then .error (orderPayloadError "SHTN_PDNO_REQUIRED")
    else if isEightAlphanumeric brokerSymbol = false then
      .error (orderPayloadError "SHTN_PDNO_MUST_BE_8_ALPHANUMERIC")
    else if brokerSymbol.toList.head? ≠ some '1' then
      .error (orderPayloadError "FUTURES_SHTN_PDNO_PRODUCT_PREFIX_REQUIRED")
    else if command.quantity ≤ 0 then .error (orderPayloadError "ORD_QTY_REQUIRED")
    else
      match command.requestedPrice with
      | none => .error (orderPayloadError "UNIT_PRICE_REQUIRED")
      | some price =>
        if price ≤ 0 then .error (orderPayloadError "UNIT_PRICE_REQUIRED")
        else if command.orderType ≠ "LIMIT" then
          .error (orderPayloadError "UNSUPPORTED_ORDER_TYPE")
        else
          let side := upper command.side
          if side ≠ "BUY" ∧ side ≠ "SELL" then .error (orderPayloadError "SIDE_REQUIRED")
          else do
            let orderQuantity ← quantityText command.quantity
            return self.body brokerSymbol side orderQuantity price

end KisDomesticFuturesOrderPayloadAdapter

/-! ## Orders -/

/-- What is ordered: which product, which side, how much of it and at which price. -/
structure Ordered where
  symbol : String
  side : Side
  quantity : ℤ
  price : ℚ
  deriving DecidableEq

/-- The code of a side. -/
def codedSide? (code : String) : Option Side :=
  if code = "02" then some .buy else if code = "01" then some .sell else none

/-- The order that is read from a body. -/
def decode (payload : Dict String String) : Option Ordered := do
  let symbol ← payload.get? "SHTN_PDNO"
  let side ← (payload.get? "SLL_BUY_DVSN_CD").bind codedSide?
  let quantity ← (payload.get? "ORD_QTY").bind parseInt
  let price ← (payload.get? "UNIT_PRICE").bind parseDecimal
  return ⟨symbol, side, quantity, price.value⟩

/-- The order that is given with a command, whose side may be written in small letters. -/
def ordered? (command : BrokerOrderCommand) : Option Ordered := do
  let symbol ← command.brokerSymbol
  let side ← sideOf? (upper command.side)
  let price ← command.requestedPrice
  return ⟨symbol, side, command.quantity, price⟩

variable {adapter : KisDomesticFuturesOrderPayloadAdapter} {command : BrokerOrderCommand}
  {payload : Dict String String}

/-- What is known of a command that is accepted, and its body. -/
structure Accepted (adapter : KisDomesticFuturesOrderPayloadAdapter) (command : BrokerOrderCommand)
    (payload : Dict String String) (brokerSymbol : String) (price : ℚ) : Prop where
  symbol : command.brokerSymbol = some brokerSymbol
  quantity : 0 < command.quantity
  short : (toString command.quantity).length ≤ maxStrDigits
  requested : command.requestedPrice = some price
  positive : 0 < price
  side : upper command.side = "BUY" ∨ upper command.side = "SELL"
  body : payload = adapter.body brokerSymbol (upper command.side) (toString command.quantity) price

theorem accepted_of_toPayload (accepted : adapter.toPayload command = .ok payload) :
    ∃ brokerSymbol price, Accepted adapter command payload brokerSymbol price := by
  simp only [KisDomesticFuturesOrderPayloadAdapter.toPayload, ite_error_eq_ok] at accepted
  obtain ⟨-, given, -, -, quantity, priced⟩ := accepted
  cases symbol : command.brokerSymbol with
  | none => exact absurd (by rw [symbol]; rfl) given
  | some brokerSymbol =>
    cases requested : command.requestedPrice with
    | none =>
      rw [requested] at priced
      cases priced
    | some price =>
      rw [requested, symbol] at priced
      simp only [ite_error_eq_ok, bind_eq_ok, quantityText] at priced
      obtain ⟨positive, -, side, _, ⟨short, ⟨⟩⟩, ⟨⟩⟩ := priced
      exact ⟨brokerSymbol, price, symbol, by omega, by omega, requested, not_le.mp positive,
        by tauto, rfl⟩

theorem codedSide?_of_side {side : String} (known : side = "BUY" ∨ side = "SELL") :
    codedSide? (if side = "BUY" then "02" else "01") = sideOf? side := by
  rcases known with rfl | rfl <;> rfl

/-- The four texts that are read from a body. -/
theorem decode_body {brokerSymbol side orderQuantity : String} {price : ℚ} :
    decode (adapter.body brokerSymbol side orderQuantity price) =
      (codedSide? (if side = "BUY" then "02" else "01")).bind fun side =>
        (parseInt orderQuantity).bind fun quantity =>
          ((parseDecimal (hundredthsText price)).map Decimal.value).map fun price =>
            ⟨brokerSymbol, side, quantity, price⟩ := by
  simp only [decode, KisDomesticFuturesOrderPayloadAdapter.body, Dict.ofList, List.foldl_cons,
    List.foldl_nil, Dict.get?_set, String.reduceEq, if_true, if_false, Option.bind_eq_bind,
    Option.bind_some]
  cases parseDecimal (hundredthsText price) <;> rfl

/-- The product, the side and the quantity are kept, and the price up to a hundredth. -/
theorem decode_toPayload (accepted : adapter.toPayload command = .ok payload) :
    ∃ order, ordered? command = some order ∧ command.requestedPrice = some order.price ∧
      0 < order.price ∧ decode payload =
        some { order with price := (roundHalfEven (order.price * 100) : ℚ) / 100 } := by
  obtain ⟨brokerSymbol, price, known⟩ := accepted_of_toPayload accepted
  obtain ⟨side, named⟩ : ∃ side, sideOf? (upper command.side) = some side := by
    rcases known.side with named | named <;> rw [named] <;> exact ⟨_, rfl⟩
  refine ⟨⟨brokerSymbol, side, command.quantity, price⟩, ?_, known.requested, known.positive, ?_⟩
  · simp [ordered?, known.symbol, named, known.requested]
  · rw [known.body, decode_body, codedSide?_of_side known.side, named,
      parseInt_intText known.quantity.le, if_pos known.short,
      value_hundredthsText known.positive.le]
    rfl

theorem hundredths_eq_iff {price : ℚ} :
    (roundHalfEven (price * 100) : ℚ) / 100 = price ↔
      ∃ hundredths : ℤ, price * 100 = hundredths := by
  rw [div_eq_iff (by norm_num), roundHalfEven_eq_self_iff]

/-- The order of an accepted command is read from its body exactly when its price is a whole number
of hundredths. -/
theorem decode_toPayload_iff (accepted : adapter.toPayload command = .ok payload) :
    decode payload = ordered? command ↔ ∀ price, command.requestedPrice = some price →
      ∃ hundredths : ℤ, price * 100 = hundredths := by
  obtain ⟨order, given, requested, -, read⟩ := decode_toPayload accepted
  have kept : decode payload = ordered? command ↔
      (roundHalfEven (order.price * 100) : ℚ) / 100 = order.price := by
    rw [given, read, Option.some.injEq, Ordered.mk.injEq]
    simp
  rw [kept, hundredths_eq_iff, requested]
  simp

/-- A price of half a hundredth or less is sent as zero. -/
theorem zero_price_iff (accepted : adapter.toPayload command = .ok payload) :
    (decode payload).map (·.price) = some 0 ↔
      ∀ price, command.requestedPrice = some price → price ≤ 1 / 200 := by
  obtain ⟨order, -, requested, positive, read⟩ := decode_toPayload accepted
  have zero : (roundHalfEven (order.price * 100) : ℚ) / 100 = 0 ↔ order.price ≤ 1 / 200 := by
    have nonneg : 0 ≤ order.price * 100 := by positivity
    rw [div_eq_zero_iff, or_iff_left (by norm_num), Int.cast_eq_zero,
      roundHalfEven_eq_zero_iff nonneg]
    constructor <;> intro small <;> linarith
  rw [requested, read, Option.map_some, Option.some.injEq, zero]
  simp

/-- A sale of three contracts at the given price. -/
def saleAt (price : ℚ) : BrokerOrderCommand where
  clientOrderId := "ORD-1"
  instrumentId := "F-202612"
  side := "SELL"
  quantity := 3
  orderType := "LIMIT"
  brokerSymbol := some "101W1200"
  assetType := some "FUTURES"
  requestedPrice := some price

def account : KisDomesticFuturesOrderPayloadAdapter := ⟨⟨"12345678", "03"⟩⟩

theorem toPayload_saleAt {price : ℚ} (positive : 0 < price) :
    account.toPayload (saleAt price) = .ok (account.body "101W1200" "SELL" "3" price) := by
  have priced : ¬price ≤ 0 := not_le.mpr positive
  have symbol : isEightAlphanumeric "101W1200" = true := by decide
  have side : upper "SELL" = "SELL" := by decide
  have quantity : quantityText 3 = .ok "3" := by decide +kernel
  simp [KisDomesticFuturesOrderPayloadAdapter.toPayload, saleAt, orEmpty, symbol, priced, side,
    quantity]

theorem saleAt_lossless : ∃ payload, account.toPayload (saleAt 350.25) = .ok payload ∧
    decode payload = ordered? (saleAt 350.25) := by
  have accepted := @toPayload_saleAt 350.25 (by norm_num)
  refine ⟨_, accepted, (decode_toPayload_iff accepted).mpr ?_⟩
  rintro price ⟨⟩
  exact ⟨35025, by norm_num⟩

/-- The price of a thousandth passes the check and is sent as zero. -/
theorem saleAt_sent_for_nothing : ∃ payload, account.toPayload (saleAt 0.001) = .ok payload ∧
    payload.get? "UNIT_PRICE" = some "0.00" ∧ decode payload ≠ ordered? (saleAt 0.001) :=
  ⟨_, toPayload_saleAt (by norm_num), by decide +kernel, by decide +kernel⟩

end OrderPayload
end OptionProject.Live
