import OptionProject.Library.Fields
import OptionProject.Library.Json
import OptionProject.Library.Numerals
import OptionProject.Live.NoticeAdapter

/-!
# Execution frames on their way to a notice

`infrastructure/kis/futures_execution_transport.py` decrypts the last part of a frame and writes
the frame again with the plaintext in it. `KISFuturesExecutionNoticeAdapter.parse` splits what was
written and reads the notice. The decryption and `json.loads` are parameters.

## Main definitions

* `KISFuturesExecutionTransport.normalize` — a message of the socket.
* `KISFuturesExecutionNoticeAdapter.parse` — the notice of a frame.
* `Survives` — what should hold of a frame and its plaintext.

## Main results

* `parse_rewritten_iff` — which plaintexts are accepted, and as what.
* `survives_iff` — the frames that survive: no plaintext is cut off in its last field.
-/
namespace OptionProject.Live
open Library Contracts

/-- `KIS_FUTURES_EXECUTION_NOTICE_TR_ID`. -/
def noticeTrId : String := "H0IFCNI0"

/-! ## The transport -/

structure KISFuturesExecutionTransport where
  crypto : Dict String (String × String)

def executionTransportError (text : String) : PythonException :=
  ⟨"FuturesExecutionTransportError", text⟩

/-- `value.get`, which only a mapping has. -/
def mapping (value : Json) : Except PythonException (List (String × Json)) :=
  match value with
  | .object fields => .ok fields
  | other => .error ⟨"AttributeError", "'" ++ other.typeName ++ "' object has no attribute 'get'"⟩

namespace KISFuturesExecutionTransport

variable [UnicodeTable] (loads : String → Option Json)
  (decrypt : String → String × String → Except PythonException String)

/-- The key and the vector that a control message brings along, if it does. -/
def controlCrypto (message : Json) : Except PythonException (Option (String × String)) := do
  let message ← mapping message
  let header ← mapping ((Json.get? message "header").getD (.object []))
  let body ← mapping ((Json.get? message "body").getD (.object []))
  let output := (Json.get? body "output").getD .null
  if strip (Json.textOr header "tr_id" "") = noticeTrId ∧ Json.holds body "rt_cd" "0" ∧
      output.truthy then do
    let output ← mapping output
    match Json.get? output "key", Json.get? output "iv" with
    | some key, some iv => return if key.truthy && iv.truthy then some (key.text, iv.text) else none
    | _, _ => return none
  else return none

/-- `_normalize`. -/
def normalize (self : KISFuturesExecutionTransport) (text : String) :
    Except PythonException (Option String) × KISFuturesExecutionTransport :=
  if text.toList.head? = some (Char.ofNat 0x7b) then
    match loads text with
    | none => (.error (executionTransportError "invalid KIS websocket control message"), self)
    | some message =>
      match controlCrypto message with
      | .error e => (.error e, self)
      | .ok none => (.ok none, self)
      | .ok (some crypto) => (.ok none, { self with crypto := self.crypto.set noticeTrId crypto })
  else
    match splitOn '|' text with
    | flag :: trId :: _ :: ciphertext :: _ =>
      if trId = noticeTrId then
        match self.crypto.get? noticeTrId with
        | none =>
          (.error (executionTransportError "H0IFCNI0 crypto context is not established"), self)
        | some crypto =>
          match decrypt ciphertext crypto with
          | .error e => (.error e, self)
          | .ok plain =>
            let fieldCount := (splitOn '^' plain).length
            (.ok (some (flag ++ "|" ++ trId ++ "|" ++ toString fieldCount ++ "|" ++ plain)), self)
      else (.ok none, self)
    | _ => (.ok none, self)

end KISFuturesExecutionTransport

/-! ## The notice -/

/-- `_FIELDS`. -/
def noticeFields : List String :=
  ["cust_id", "acnt_no", "oder_no", "ooder_no", "seln_byov_cls", "rctf_cls", "oder_kind2",
    "stck_shrn_iscd", "cntg_qty", "cntg_unpr", "stck_cntg_hour", "rfus_yn", "cntg_yn", "acpt_yn",
    "brnc_no", "oder_qty", "acnt_name", "cntg_isnm", "oder_cond", "ord_grp", "ord_grpseq",
    "order_prc"]

def KISFuturesExecutionNoticeAdapter.parse (frame : String) :
    Except Raised KISFuturesExecutionNotice :=
  match splitOn '|' frame with
  | flag :: trId :: count :: payload :: _ =>
    if flag ≠ "0" ∧ flag ≠ "1" then .error (adapterInvalid "invalid KIS realtime frame envelope")
    else if trId ≠ noticeTrId then
      .error (adapterInvalid "unexpected KIS execution notice TR ID")
    else
      match parseInt count with
      | none => .error (adapterInvalid "invalid KIS field count")
      | some fieldCount =>
        let values := splitOn '^' payload
        if fieldCount ≠ values.length ∨ values.length ≠ noticeFields.length then
          .error (adapterInvalid "KIS execution notice field count mismatch")
        else .ok { values := .ofList (noticeFields.zip values), rawFrame := frame }
  | _ => .error (adapterInvalid "invalid KIS realtime frame envelope")

/-! ## From one to the other -/

namespace ExecutionFrames

/-- What the transport writes for a plaintext. -/
def rewritten (flag plain : String) : String :=
  flag ++ "|" ++ noticeTrId ++ "|" ++ toString (splitOn '^' plain).length ++ "|" ++ plain

/-- What comes before the first bar. -/
def beforeBar (plain : String) : String := ((splitOn '|' plain).head?).getD ""

/-- The notice of what the transport writes. -/
def noticeOf (flag plain : String) : KISFuturesExecutionNotice where
  values := .ofList (noticeFields.zip (splitOn '^' (beforeBar plain)))
  rawFrame := rewritten flag plain

/-- `"^".join(notice.values.values())`. -/
def joined (notice : KISFuturesExecutionNotice) : String := join '^' notice.values.values

/-- The flag of a frame that `parse` takes. -/
def Known (flag : String) : Prop := flag = "0" ∨ flag = "1"

variable {flag plain kept dropped : String} {notice : KISFuturesExecutionNotice}

theorem not_unknown_iff : ¬(flag ≠ "0" ∧ flag ≠ "1") ↔ Known flag := by
  unfold Known
  tauto

theorem beforeBar_of_free (free : '|' ∉ plain.toList) : beforeBar plain = plain := by
  rw [beforeBar, splitOn_of_free free]
  rfl

theorem beforeBar_append (free : '|' ∉ kept.toList) :
    beforeBar (kept ++ ("|" ++ dropped)) = kept := by
  rw [beforeBar, splitOn_append rfl free]
  rfl

theorem splitOn_rewritten (free : '|' ∉ flag.toList) : ∃ rest, splitOn '|' (rewritten flag plain) =
    flag :: noticeTrId :: toString (splitOn '^' plain).length :: beforeBar plain :: rest := by
  have trId : '|' ∉ noticeTrId.toList := by decide
  have count : '|' ∉ (toString (splitOn '^' plain).length).toList := by
    intro mem
    have digit := isDigit_toDigits (splitOn '^' plain).length '|' (by simpa using mem)
    cases digit
  obtain ⟨first, rest, parts⟩ := List.exists_cons_of_ne_nil (splitOn_ne_nil '|' plain)
  refine ⟨rest, ?_⟩
  simp only [rewritten, String.append_assoc]
  rw [splitOn_append rfl free, splitOn_append rfl trId, splitOn_append rfl count, beforeBar, parts]
  rfl

theorem nodup_noticeFields : noticeFields.Nodup := by decide +kernel

theorem values_ofList_zip {values : List String} (full : values.length = noticeFields.length) :
    (Dict.ofList (noticeFields.zip values)).values = values := by
  have keys : (noticeFields.zip values).map Prod.fst = noticeFields :=
    List.map_fst_zip full.ge
  have distinct : ((noticeFields.zip values).map Prod.fst).Nodup := by
    rw [keys]
    exact nodup_noticeFields
  rw [Dict.values, Dict.entries_ofList distinct, List.map_snd_zip full.le]

/-- A frame is taken when its flag is known, and the part in front of the first bar has as many
fields as the plaintext, namely all. -/
theorem parse_rewritten_iff (free : '|' ∉ flag.toList) :
    KISFuturesExecutionNoticeAdapter.parse (rewritten flag plain) = .ok notice ↔
      Known flag ∧ (splitOn '^' (beforeBar plain)).length = noticeFields.length ∧
        (splitOn '^' plain).length = noticeFields.length ∧ notice = noticeOf flag plain := by
  obtain ⟨rest, parts⟩ := @splitOn_rewritten flag plain free
  have read := @parseInt_intText (splitOn '^' plain).length (Int.natCast_nonneg _)
  have text : toString ((splitOn '^' plain).length : ℤ) = toString (splitOn '^' plain).length := rfl
  rw [text] at read
  rw [KISFuturesExecutionNoticeAdapter.parse, parts]
  simp only [ite_error_eq_ok, read]
  by_cases short : (toString (splitOn '^' plain).length).length ≤ maxStrDigits
  · simp only [short, if_true, ite_error_eq_ok, Except.ok.injEq, not_unknown_iff]
    grind [noticeOf]
  · -- so many fields are not as many as a notice has
    have other : (splitOn '^' plain).length ≠ noticeFields.length := by
      intro all
      rw [all] at short
      exact short (by decide +kernel)
    simp only [short, if_false, other, false_and, and_false, iff_false, not_and]
    rintro - - ⟨⟩

theorem joined_noticeOf
    (full : (splitOn '^' (beforeBar plain)).length = noticeFields.length) :
    joined (noticeOf flag plain) = beforeBar plain := by
  rw [joined, noticeOf, values_ofList_zip full, join_splitOn]

section Survival

variable {loads : String → Option Json}
  {decrypt : String → String × String → Except PythonException String}
  {transport : KISFuturesExecutionTransport} {text : String}

variable (decrypt) in
/-- A frame of notices with this flag, whose plaintext the transport can decrypt. -/
def Encrypted (transport : KISFuturesExecutionTransport) (text flag plain : String) : Prop :=
  ∃ count ciphertext rest crypto,
    splitOn '|' text = flag :: noticeTrId :: count :: ciphertext :: rest ∧
      transport.crypto.get? noticeTrId = some crypto ∧ decrypt ciphertext crypto = .ok plain

theorem Encrypted.free (encrypted : Encrypted decrypt transport text flag plain) :
    '|' ∉ flag.toList := by
  obtain ⟨count, ciphertext, rest, crypto, parts, -, -⟩ := encrypted
  exact free_of_mem_splitOn (s := text) (by simp [parts])

theorem not_known_of_brace (encrypted : Encrypted decrypt transport text flag plain)
    (brace : text.toList.head? = some (Char.ofNat 0x7b)) : ¬Known flag := by
  obtain ⟨count, ciphertext, rest, crypto, parts, -, -⟩ := encrypted
  obtain ⟨back, rfl⟩ := eq_append_of_splitOn "|" rfl parts
  rintro (rfl | rfl) <;> simp at brace

/-- No field is lost behind a bar exactly when none begins there. -/
theorem length_kept_iff : (splitOn '^' kept).length =
    (splitOn '^' (kept ++ ("|" ++ dropped))).length ↔ '^' ∉ dropped.toList := by
  simp [length_splitOn, List.count_eq_zero]

/-- The plaintext has a bar in the last of its fields. -/
def CutOff (plain : String) : Prop :=
  (splitOn '^' plain).length = 22 ∧
    ∃ kept dropped, plain = kept ++ "|" ++ dropped ∧ '|' ∉ kept.toList ∧ '^' ∉ dropped.toList

variable [UnicodeTable]

variable (loads decrypt) in
/-- What the transport writes for the text is taken as the notice. -/
def Accepts (transport : KISFuturesExecutionTransport) (text : String)
    (notice : KISFuturesExecutionNotice) : Prop :=
  ∃ written, (transport.normalize loads decrypt text).1 = .ok (some written) ∧
    KISFuturesExecutionNoticeAdapter.parse written = .ok notice

variable (loads decrypt) in
/-- A notice has the whole plaintext, and there is one for every plaintext of as many fields as a
notice has, without a bar. -/
structure Survives (transport : KISFuturesExecutionTransport) (text flag plain : String) :
    Prop where
  restored : ∀ notice, Accepts loads decrypt transport text notice → joined notice = plain
  accepted : (splitOn '^' plain).length = 22 → '|' ∉ plain.toList → Known flag →
    ∃ notice, Accepts loads decrypt transport text notice

/-- A text that starts with a brace is a control message. No notice is taken from it. -/
theorem not_accepts_of_brace (brace : text.toList.head? = some (Char.ofNat 0x7b)) :
    ¬Accepts loads decrypt transport text notice := by
  rintro ⟨written, normalized, -⟩
  rw [KISFuturesExecutionTransport.normalize, if_pos brace] at normalized
  grind

theorem accepts_iff (encrypted : Encrypted decrypt transport text flag plain) :
    Accepts loads decrypt transport text notice ↔
      KISFuturesExecutionNoticeAdapter.parse (rewritten flag plain) = .ok notice := by
  by_cases brace : text.toList.head? = some (Char.ofNat 0x7b)
  · refine iff_of_false (not_accepts_of_brace brace) fun parsed => ?_
    exact not_known_of_brace encrypted brace ((parse_rewritten_iff encrypted.free).mp parsed).1
  · obtain ⟨count, ciphertext, rest, crypto, parts, established, decrypted⟩ := encrypted
    have normalized : (transport.normalize loads decrypt text).1 =
        .ok (some (rewritten flag plain)) := by
      simp only [KISFuturesExecutionTransport.normalize, if_neg brace, parts, established,
        decrypted, if_true, rewritten]
    rw [Accepts, normalized]
    simp

/-- A frame survives unless its flag is known and its plaintext is cut off at a bar. -/
theorem survives_iff (encrypted : Encrypted decrypt transport text flag plain) :
    Survives loads decrypt transport text flag plain ↔ ¬(Known flag ∧ CutOff plain) := by
  constructor
  · rintro survives ⟨known, full, kept, dropped, rfl, free, last⟩
    rw [String.append_assoc] at full survives encrypted
    have before := @beforeBar_append kept dropped free
    have all := (length_kept_iff.mpr last).trans full
    rw [← before] at all
    have accepts : Accepts loads decrypt transport text
        (noticeOf flag (kept ++ ("|" ++ dropped))) :=
      (accepts_iff encrypted).mpr ((parse_rewritten_iff encrypted.free).mpr ⟨known, all, full, rfl⟩)
    -- the notice has only what is in front of the bar
    have restored := survives.restored _ accepts
    rw [joined_noticeOf all, before] at restored
    have longer := congrArg String.length restored
    simp at longer
  · intro whole
    refine ⟨fun notice accepts => ?_, fun full free known => ?_⟩
    · obtain ⟨known, kept, full, rfl⟩ :=
        (parse_rewritten_iff encrypted.free).mp ((accepts_iff encrypted).mp accepts)
      rw [joined_noticeOf kept]
      rcases free_or_append '|' "|" plain rfl with free | ⟨front, back, rfl, free⟩
      · exact beforeBar_of_free free
      · rw [beforeBar_append free] at kept
        have last := length_kept_iff.mp (kept.trans full.symm)
        exact absurd ⟨known, full, front, back, (String.append_assoc).symm, free, last⟩ whole
    · have kept : (splitOn '^' (beforeBar plain)).length = noticeFields.length := by
        rw [beforeBar_of_free free]
        exact full
      exact ⟨noticeOf flag plain, (accepts_iff encrypted).mpr
        ((parse_rewritten_iff encrypted.free).mpr ⟨known, kept, full, rfl⟩)⟩

end Survival

/-- The plaintext of a notice with the given order price, its last field. -/
def sold (orderPrice : String) : String :=
  "id^acct^1001^0^01^0^0^101W12^2^350.25^101010^0^Y^2^01^2^name^fut^0^1^1^" ++ orderPrice

/-- A transport with a crypto context. -/
def established : KISFuturesExecutionTransport :=
  ⟨.ofList [(noticeTrId, "0123456789abcdef0123456789abcdef", "0123456789abcdef")]⟩

theorem encrypted_sold (orderPrice : String) :
    Encrypted (fun _ _ => .ok (sold orderPrice)) established "1|H0IFCNI0|1|Y2lwaGVy" "1"
      (sold orderPrice) :=
  ⟨"1", "Y2lwaGVy", [], _, by decide, rfl, rfl⟩

theorem sold_survives :
    letI : UnicodeTable := ⟨fun _ => true⟩
    Survives (fun _ => none) (fun _ _ => .ok (sold "350.25")) established "1|H0IFCNI0|1|Y2lwaGVy"
      "1" (sold "350.25") := by
  let : UnicodeTable := ⟨fun _ => true⟩
  refine (survives_iff (encrypted_sold "350.25")).mpr ?_
  rintro ⟨-, -, kept, dropped, split, -⟩
  have bar : '|' ∈ (sold "350.25").toList := by simp [split]
  exact absurd bar (by decide +kernel)

/-- A text behind a bar in the last field is lost. -/
theorem sold_loses_text :
    letI : UnicodeTable := ⟨fun _ => true⟩
    ∃ notice, Accepts (fun _ => none) (fun _ _ => .ok (sold "350.25|B")) established
        "1|H0IFCNI0|1|Y2lwaGVy" notice ∧ joined notice = sold "350.25" ∧
      ¬Survives (fun _ => none) (fun _ _ => .ok (sold "350.25|B")) established
        "1|H0IFCNI0|1|Y2lwaGVy" "1" (sold "350.25|B") := by
  let : UnicodeTable := ⟨fun _ => true⟩
  have encrypted := encrypted_sold "350.25|B"
  have front : beforeBar (sold "350.25|B") = sold "350.25" := by decide +kernel
  have full : (splitOn '^' (sold "350.25")).length = noticeFields.length := by decide +kernel
  have all : (splitOn '^' (sold "350.25|B")).length = noticeFields.length := by decide +kernel
  rw [← front] at full
  have parsed := (@parse_rewritten_iff "1" (sold "350.25|B") _ encrypted.free).mpr
    ⟨.inr rfl, full, all, rfl⟩
  have accepts := (@accepts_iff _ _ _ (fun _ => none) _ _ _ _ encrypted).mpr parsed
  have shortened : joined (noticeOf "1" (sold "350.25|B")) = sold "350.25" :=
    (joined_noticeOf full).trans front
  refine ⟨_, accepts, shortened, fun survives => ?_⟩
  exact absurd (shortened.symm.trans (survives.restored _ accepts)) (by decide +kernel)

end ExecutionFrames
end OptionProject.Live
