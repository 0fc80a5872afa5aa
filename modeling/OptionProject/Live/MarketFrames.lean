import OptionProject.Library.Fields
import OptionProject.Library.Numerals
import OptionProject.Options.MasterFile

/-!
# Market frames of the index futures

`contracts/kis_index_futures_market_ws_adapter.py`: frames of trades and of quotes, read into
typed observations. The two kinds differ in where their fields stand.

## Main definitions

* `KISIndexFuturesMarketWebSocketAdapter.adapt` — the observation of a frame.
* `FrameLayout.Reads` — what an observation says about the fields of its frame.

## Main results

* `adapt_frameOf_iff` — which fields, written as a frame, are accepted, and as what.
* `adapt_eq_ok_iff` — every frame that is accepted is read as one that is written so.
-/
namespace OptionProject.Live
open Library Contracts
open Options (Strike readDecimal)

/-- The numbers are decimals: `Decimal` also takes the texts of infinities and of `NaN`. -/
structure KisIndexFuturesMarketObservation where
  shrnIscd : String
  observedHour : String
  price : Option Strike
  volume : Option Strike
  askPrice : Option Strike
  bidPrice : Option Strike
  source : String
  deriving DecidableEq

/-- A `KISIndexFuturesWebSocketAdapterInvalid`. -/
def frameInvalid (text : String) : PythonException :=
  ⟨"KISIndexFuturesWebSocketAdapterInvalid", text⟩

/-- The TR id of a kind of frames, and where their fields stand behind the short code. -/
structure FrameLayout where
  trId : String
  time : ℕ
  price : Option ℕ
  volume : Option ℕ
  ask1 : ℕ
  bid1 : ℕ
  deriving DecidableEq

/-- `_H0IFCNT0` -/
def tradeLayout : FrameLayout := ⟨"H0IFCNT0", 1, some 5, some 10, 35, 36⟩

/-- `_H0IFASP0` -/
def quoteLayout : FrameLayout := ⟨"H0IFASP0", 1, none, none, 2, 7⟩

def FrameLayout.requiredMax (layout : FrameLayout) : ℕ :=
  (layout.price.toList ++ layout.volume.toList ++ [layout.time, layout.ask1, layout.bid1]).foldl
    max 0

/-- `values[index]`, where there is one. -/
def valueAt (values : List String) (index : ℕ) : String := values[index]?.getD ""

/-- A number that not every layout has. -/
def readOptional (values : List String) : Option ℕ → Option (Option Strike)
  | none => some none
  | some index => (readDecimal (valueAt values index)).map some

def decodeFields (frame expectedTrId : String) : Except PythonException (List String) :=
  match splitOn '|' frame with
  | flag :: trId :: count :: payload :: _ =>
    if flag ≠ "0" ∧ flag ≠ "1" then .error (frameInvalid "invalid KIS realtime frame envelope")
    else if trId ≠ expectedTrId then .error (frameInvalid "unexpected KIS TR ID")
    else
      match parseInt count with
      | none => .error (frameInvalid "invalid KIS field count")
      | some fieldCount =>
        let values := splitOn '^' payload
        if fieldCount ≠ values.length then .error (frameInvalid "KIS field count mismatch")
        else .ok values
  | _ => .error (frameInvalid "invalid KIS realtime frame envelope")

namespace KISIndexFuturesMarketWebSocketAdapter

/-- The observation of the fields, where all their numbers can be read. -/
def observationOf? (layout : FrameLayout) (values : List String) (source : String) :
    Option KisIndexFuturesMarketObservation := do
  let price ← readOptional values layout.price
  let volume ← readOptional values layout.volume
  let askPrice ← readDecimal (valueAt values layout.ask1)
  let bidPrice ← readDecimal (valueAt values layout.bid1)
  return { shrnIscd := strip (valueAt values 0), observedHour := strip (valueAt values layout.time)
           price, volume, askPrice := some askPrice, bidPrice := some bidPrice, source }

/-- What `_adapt_trade` and `_adapt_quote` do. -/
def adaptWith (layout : FrameLayout) (frame source : String) :
    Except PythonException KisIndexFuturesMarketObservation := do
  let values ← decodeFields frame layout.trId
  if values.length ≤ layout.requiredMax then
    .error (frameInvalid ("KIS " ++ layout.trId ++ " payload is incomplete"))
  else if strip (valueAt values 0) = "" then
    .error (frameInvalid "KIS futures short code is missing")
  else
    match observationOf? layout values source with
    | some observation => .ok observation
    | none => .error (frameInvalid ("invalid " ++ layout.trId ++ " numeric field"))

def adaptTrade (frame source : String) :
    Except PythonException KisIndexFuturesMarketObservation := adaptWith tradeLayout frame source

def adaptQuote (frame source : String) :
    Except PythonException KisIndexFuturesMarketObservation := adaptWith quoteLayout frame source

/-- An empty source counts as none. -/
def sourceOr (source : Option String) (default : String) : String :=
  if orEmpty source = "" then default else orEmpty source

def adapt (frame : String) (source : Option String := none) :
    Except PythonException KisIndexFuturesMarketObservation :=
  match splitOn '|' frame with
  | _ :: trId :: _ =>
    if trId = tradeLayout.trId then adaptTrade frame (sourceOr source "KIS:H0IFCNT0")
    else if trId = quoteLayout.trId then adaptQuote frame (sourceOr source "KIS:H0IFASP0")
    else .error (frameInvalid "unsupported KIS index-futures TR ID")
  | _ => .error (frameInvalid "invalid KIS realtime frame")

/-! ## Frames that are accepted -/

/-- The kinds of frames, with the source that is noted for each. -/
def layouts : List (FrameLayout × String) :=
  [(tradeLayout, "KIS:H0IFCNT0"), (quoteLayout, "KIS:H0IFASP0")]

/-- The fields are complete and named, and all their numbers can be read. -/
structure Reads (layout : FrameLayout) (values : List String) (source : String)
    (observation : KisIndexFuturesMarketObservation) : Prop where
  complete : layout.requiredMax < values.length
  named : strip (valueAt values 0) ≠ ""
  observed : observationOf? layout values source = some observation

/-- The flag of a frame that is taken. -/
def Flagged (flag : String) : Prop := flag = "0" ∨ flag = "1"

variable {frame flag trId count payload source : String} {rest fields values : List String}
  {layout : FrameLayout} {observation : KisIndexFuturesMarketObservation}

theorem decodeFields_eq_ok :
    decodeFields frame trId = .ok values ↔ ∃ flag count payload rest,
      splitOn '|' frame = flag :: trId :: count :: payload :: rest ∧ Flagged flag ∧
        parseInt count = some (values.length : ℤ) ∧ values = splitOn '^' payload := by
  unfold decodeFields
  split
  next flag trId' count payload rest parts =>
    simp only [ite_error_eq_ok, parts, List.cons.injEq]
    constructor
    · rintro ⟨flagged, same, read⟩
      split at read
      · cases read
      next fieldCount counted =>
        obtain ⟨full, read⟩ := ite_error_eq_ok.mp read
        obtain rfl := Except.ok.inj read
        refine ⟨flag, count, payload, rest, ⟨rfl, not_not.mp same, rfl, rfl, rfl⟩, ?_, ?_, rfl⟩
        · unfold Flagged
          tauto
        · rw [counted, not_not.mp full]
    · rintro ⟨_, _, _, _, ⟨rfl, rfl, rfl, rfl, rfl⟩, flagged, counted, rfl⟩
      unfold Flagged at flagged
      refine ⟨by tauto, fun apart => apart rfl, ?_⟩
      simp [counted]
  next other =>
    refine iff_of_false (by rintro ⟨⟩) ?_
    rintro ⟨flag, count, payload, rest, parts, -⟩
    exact other _ _ _ _ _ parts

theorem adaptWith_eq_ok :
    adaptWith layout frame source = .ok observation ↔ ∃ values,
      decodeFields frame layout.trId = .ok values ∧ Reads layout values source observation := by
  unfold adaptWith
  simp only [bind_eq_ok, ite_error_eq_ok]
  constructor
  · rintro ⟨values, decoded, complete, named, read⟩
    refine ⟨values, decoded, not_le.mp complete, named, ?_⟩
    split at read
    next observed => rw [observed, Except.ok.inj read]
    · cases read
  · rintro ⟨values, decoded, complete, named, observed⟩
    exact ⟨values, decoded, not_le.mpr complete, named, by simp [observed]⟩

/-- A frame is accepted as one of the two kinds. -/
theorem adapt_eq_ok :
    adapt frame = .ok observation ↔ ∃ layout source, (layout, source) ∈ layouts ∧
      adaptWith layout frame source = .ok observation := by
  have kind {layout : FrameLayout} {source : String}
      (adapted : adaptWith layout frame source = .ok observation) :
      ∃ flag rest, splitOn '|' frame = flag :: layout.trId :: rest := by
    obtain ⟨values, decoded, -⟩ := adaptWith_eq_ok.mp adapted
    obtain ⟨flag, count, payload, rest, parts, -⟩ := decodeFields_eq_ok.mp decoded
    exact ⟨flag, _, parts⟩
  have apart : quoteLayout.trId ≠ tradeLayout.trId := by decide
  unfold adapt
  constructor
  · intro adapted
    split at adapted
    next =>
      split_ifs at adapted
      · exact ⟨tradeLayout, _, List.mem_cons_self, adapted⟩
      · exact ⟨quoteLayout, _, List.mem_cons_of_mem _ List.mem_cons_self, adapted⟩
    · cases adapted
  · rintro ⟨layout, source, member, adapted⟩
    obtain ⟨flag, rest, parts⟩ := kind adapted
    rw [parts]
    simp only [layouts, List.mem_cons, Prod.mk.injEq, List.not_mem_nil, or_false] at member
    rcases member with ⟨rfl, rfl⟩ | ⟨rfl, rfl⟩
    · exact (if_pos rfl).trans adapted
    · exact (if_neg apart).trans ((if_pos rfl).trans adapted)

/-! ## Frames written from fields -/

/-- A frame with the fields. -/
def frameOf (flag trId : String) (fields : List String) : String :=
  flag ++ "|" ++ trId ++ "|" ++ toString fields.length ++ "|" ++ join '^' fields

/-- A field has no separator in it. -/
def Separate (field : String) : Prop := '|' ∉ field.toList ∧ '^' ∉ field.toList

/-- The fields of a frame can be told apart, and their number can be read. -/
structure Writable (flag : String) (fields : List String) : Prop where
  flag : '|' ∉ flag.toList
  separate : ∀ field ∈ fields, Separate field
  nonempty : fields ≠ []
  countable : (toString fields.length).length ≤ maxStrDigits

theorem splitOn_frameOf (writable : Writable flag fields) (free : '|' ∉ trId.toList) :
    splitOn '|' (frameOf flag trId fields) =
      [flag, trId, toString fields.length, join '^' fields] := by
  have count : '|' ∉ (toString fields.length).toList := by
    intro mem
    have digit := isDigit_toDigits fields.length '|' (by simpa using mem)
    cases digit
  have payload : '|' ∉ (join '^' fields).toList := by
    intro mem
    rcases mem_join mem with other | ⟨field, member, there⟩
    · cases other
    · exact (writable.separate field member).1 there
  simp only [frameOf, String.append_assoc]
  rw [splitOn_append rfl writable.flag, splitOn_append rfl free, splitOn_append rfl count,
    splitOn_of_free payload]

theorem decodeFields_frameOf (writable : Writable flag fields) (free : '|' ∉ trId.toList) :
    decodeFields (frameOf flag trId fields) trId = .ok values ↔ Flagged flag ∧ values = fields := by
  have restored : splitOn '^' (join '^' fields) = fields :=
    splitOn_join (fun field member => (writable.separate field member).2) writable.nonempty
  have counted : parseInt (toString fields.length) = some (fields.length : ℤ) :=
    (parseInt_intText (Int.natCast_nonneg fields.length)).trans (if_pos writable.countable)
  rw [decodeFields_eq_ok, splitOn_frameOf writable free]
  constructor
  · rintro ⟨flag, count, payload, rest, parts, flagged, -, rfl⟩
    cases parts
    exact ⟨flagged, restored⟩
  · rintro ⟨flagged, rfl⟩
    exact ⟨flag, _, _, [], rfl, flagged, counted, restored.symm⟩

/-- The kinds are told apart by their TR ids. -/
theorem eq_of_mem_layouts {entry entry' : FrameLayout × String} (member : entry ∈ layouts)
    (member' : entry' ∈ layouts) (same : entry.1.trId = entry'.1.trId) : entry = entry' := by
  have apart : ∀ e ∈ layouts, ∀ e' ∈ layouts, e.1.trId = e'.1.trId → e = e' := by decide
  exact apart entry member entry' member' same

theorem free_of_mem_layouts {entry : FrameLayout × String} (member : entry ∈ layouts) :
    '|' ∉ entry.1.trId.toList := by
  have free : ∀ e ∈ layouts, '|' ∉ e.1.trId.toList := by decide
  exact free entry member

/-- The fields of a kind, written as a frame, are accepted exactly when its flag is known and they
are complete, named and numbers where numbers are due; and then they are what is observed. -/
theorem adapt_frameOf_iff (writable : Writable flag fields)
    (member : (layout, source) ∈ layouts) :
    adapt (frameOf flag layout.trId fields) = .ok observation ↔
      Flagged flag ∧ Reads layout fields source observation := by
  have free := free_of_mem_layouts member
  rw [adapt_eq_ok]
  constructor
  · rintro ⟨layout', source', member', adapted⟩
    obtain ⟨values, decoded, reads⟩ := adaptWith_eq_ok.mp adapted
    obtain ⟨flag', count, payload, rest, parts, -⟩ := decodeFields_eq_ok.mp decoded
    have same : layout'.trId = layout.trId := by
      rw [splitOn_frameOf writable free] at parts
      exact (List.cons.inj (List.cons.inj parts).2).1.symm
    cases eq_of_mem_layouts member' member same
    obtain ⟨flagged, rfl⟩ := (decodeFields_frameOf writable free).mp decoded
    exact ⟨flagged, reads⟩
  · rintro ⟨flagged, reads⟩
    have decoded := (decodeFields_frameOf writable free).mpr ⟨flagged, rfl⟩
    exact ⟨layout, source, member, adaptWith_eq_ok.mpr ⟨fields, decoded, reads⟩⟩

/-- The fields of a quote, as they are sent. -/
def quoteFields : List String :=
  ["101S12", "093000", "350.20", "0", "0", "0", "0", "350.00"]

theorem adapt_quote :
    let observation : KisIndexFuturesMarketObservation :=
      { shrnIscd := "101S12", observedHour := "093000", price := none, volume := none,
        askPrice := some (.finite (3502 / 10)), bidPrice := some (.finite 350),
        source := "KIS:H0IFASP0" }
    adapt (frameOf "0" "H0IFASP0" quoteFields) = .ok observation := by
  intro observation
  have writable : Writable "0" quoteFields :=
    ⟨by decide, by unfold Separate; decide, by decide, by decide +kernel⟩
  have member : (quoteLayout, "KIS:H0IFASP0") ∈ layouts := List.mem_cons_of_mem _ List.mem_cons_self
  refine (adapt_frameOf_iff writable member).mpr ⟨.inl rfl, ?_⟩
  exact ⟨by decide, by decide +kernel, by decide +kernel⟩

end KISIndexFuturesMarketWebSocketAdapter
end OptionProject.Live
