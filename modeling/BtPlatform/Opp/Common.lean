import BtPlatform.Obex.Header
import BtPlatform.Support.Compare
import BtPlatform.Support.Memory
import BtPlatform.Support.Status

/-!
# Object push: the object that arrives

`OPPCommon_ParseHeaders`, with which the server and the client of the Object Push Profile
collect the headers of an object, and `IsBaseName`, its check of the object's name. A name
is the list of its counted characters; reading behind them is a `Fault`.
-/

namespace Opp

open Obex Support List

/-- The characters that the check of a name compares with. -/
def dot : UInt16 := 0x2E
def colon : UInt16 := 0x3A
def slash : UInt16 := 0x2F
def backslash : UInt16 := 0x5C

/-- `telecom/`, the folder that a name may begin with. -/
def telecom : List UInt16 := [0x74, 0x65, 0x6C, 0x65, 0x63, 0x6F, 0x6D, slash]

/-- `OI_StrncmpUtf16`. -/
def strncmpUtf16 (str1 str2 : List UInt16) (len : Nat) : Except Fault Ordering :=
  match strncmp 0 id str1 str2 len with
  | some o => .ok o
  | none => .error .outOfBounds

/-- Whether a string is `.` or `..`, by its length or by a terminator. -/
def isDots : List UInt16 → Except Fault Bool
  | [] => .error .outOfBounds
  | [c] => .ok (decide (c = dot))
  | [c₀, c₁] => .ok (decide (c₀ = dot ∧ (c₁ = 0 ∨ c₁ = dot)))
  | c₀ :: c₁ :: c₂ :: _ => .ok (decide (c₀ = dot ∧ (c₁ = 0 ∨ c₁ = dot ∧ c₂ = 0)))

/-- `:`, `/` and the backslash. -/
def IsSeparator (c : UInt16) : Prop := c = colon ∨ c = slash ∨ c = backslash

instance (c : UInt16) : Decidable (IsSeparator c) := inferInstanceAs (Decidable (_ ∨ _))

/-- The part of `IsBaseName` after `telecom/`. -/
def isBaseRest (str : List UInt16) : Except Fault Bool := do
  let dots ← isDots str
  return !dots && str.all fun c => decide (¬ IsSeparator c)

/-- `IsBaseName`; the string of an empty name is a null pointer. -/
def isBaseName (name : List UInt16) : Except Fault Bool :=
  if name = [] then .ok true
  else do
    let cmp ← strncmpUtf16 name telecom telecom.length
    isBaseRest (if cmp = .eq then name.drop telecom.length else name)

/-- `OI_OPP_GENERIC_OBJECT`. The string and the data of the name and the type are null
pointers until the headers arrive. -/
structure GenericObject where
  name : Option (List UInt16)
  type : Option (List UInt8)
  objSize : Nat
  objData : List UInt8
  deriving DecidableEq, Repr

namespace GenericObject

/-- The object that `OI_MemZero` leaves. -/
def zero : GenericObject := ⟨none, none, 0, []⟩

/-- The exit of `OPPCommon_ParseHeaders` after an error. -/
def cleanup (obj : GenericObject) : GenericObject := { obj with name := none, type := none }

end GenericObject

/-- What is known while the headers are walked through. -/
structure Parsing where
  obj : GenericObject
  memory : Memory
  deriving DecidableEq, Repr

namespace Parsing

/-- The case of a NAME header. -/
def parseName (p : Parsing) (str : List UInt16) : Except Fault (Status × Parsing) :=
  if p.obj.name.isSome then .ok (.ok, p)
  else do
    let base ← isBaseName str
    if base then
      return match p.memory.takeBlock with
        | (true, memory) => (.ok, ⟨{ p.obj with name := some str }, memory⟩)
        | (false, memory) => (.outOfMemory, ⟨p.obj, memory⟩)
    else return (.obexNotFound, p)

/-- The case of a TYPE header. -/
def parseType (p : Parsing) (data : List UInt8) : Status × Parsing :=
  if p.obj.type.isSome then (.ok, p)
  else
    match p.memory.takeBlock with
    | (true, memory) => (.ok, ⟨{ p.obj with type := some data }, memory⟩)
    | (false, memory) => (.outOfMemory, ⟨p.obj, memory⟩)

/-- The case of a LENGTH header. -/
def parseLength (p : Parsing) (length : Nat) : Status × Parsing :=
  if p.obj.objSize ≠ 0 then (.ok, p)
  else if length = 0 then (.obexValueNotAcceptable, p)
  else (.ok, { p with obj.objSize := length })

/-- The case of an END OF BODY header. -/
def parseEndOfBody (p : Parsing) (body : List UInt8) : Parsing :=
  { p with obj.objData := body
           obj.objSize := if p.obj.objSize = 0 then body.length else p.obj.objSize }

/-- One header in the loop of `OPPCommon_ParseHeaders`. -/
def parseHeader (p : Parsing) : Header → Except Fault (Status × Parsing)
  | .unicode 1 str => p.parseName str
  | .byteseq 2 data => .ok (p.parseType data)
  | .uInt32 3 length => .ok (p.parseLength length.toNat)
  | .byteseq 8 body => .ok (.ok, { p with obj.objData := body })
  | .byteseq 9 body => .ok (.ok, p.parseEndOfBody body)
  | _ => .ok (.ok, p)

/-- `OPPCommon_ParseHeaders`. -/
def parseHeaders (p : Parsing) : List Header → Except Fault (Status × Parsing)
  | [] => .ok (.ok, p)
  | header :: headers => do
      let (status, p) ← p.parseHeader header
      if status = .ok then parseHeaders p headers
      else return (status, { p with obj := p.obj.cleanup })

end Parsing

/-! ## What a base name is -/

/-- A name without the folder it may begin with. -/
def remainder (name : List UInt16) : List UInt16 :=
  if telecom <+: name then name.drop telecom.length else name

/-- The characters before the first terminator. -/
def cString (str : List UInt16) : List UInt16 := str.takeWhile (· ≠ 0)

/-- A name is no path: there is no separator behind `telecom/`, and what stands there is
neither `.` nor `..`. -/
structure Base (name : List UInt16) : Prop where
  plain : ∀ c ∈ remainder name, ¬ IsSeparator c
  notDot : cString (remainder name) ≠ [dot]
  notDots : cString (remainder name) ≠ [dot, dot]

/-- The check runs into the end of a name: all of it belongs to `telecom/`. -/
def RunsOut (name : List UInt16) : Prop := name ≠ [] ∧ name <+: telecom

instance (name : List UInt16) : Decidable (RunsOut name) := inferInstanceAs (Decidable (_ ∧ _))

theorem base_nil : Base [] where
  plain := nofun
  notDot := nofun
  notDots := nofun

theorem telecom_nonzero : ∀ c ∈ telecom, id c ≠ 0 := by
  have h : telecom.all (fun c => id c != 0) = true := by decide
  intro c hc
  exact bne_iff_ne.1 (all_eq_true.1 h c hc)

variable {name str : List UInt16}

theorem strncmpUtf16_telecom (h : ¬ (name <+: telecom ∧ name.length < 8)) :
    ∃ o, strncmpUtf16 name telecom telecom.length = .ok o ∧ (o = .eq ↔ telecom <+: name) := by
  unfold strncmpUtf16
  cases hcmp : strncmp 0 id name telecom telecom.length with
  | none =>
      have hpart := (strncmp_literal_none_iff telecom_nonzero).1 hcmp
      rw [map_id, map_id] at hpart
      exact absurd hpart h
  | some o =>
      refine ⟨o, rfl, ?_⟩
      rw [← Option.some_inj, ← hcmp, strncmp_literal_eq_iff telecom_nonzero, map_id,
        map_id]

theorem strncmpUtf16_telecom_short (h : name <+: telecom) (hlength : name.length < 8) :
    strncmpUtf16 name telecom telecom.length = .error .outOfBounds := by
  have hnone : strncmp 0 id name telecom telecom.length = none :=
    (strncmp_literal_none_iff telecom_nonzero).2 ⟨by rwa [map_id, map_id], hlength⟩
  unfold strncmpUtf16
  rw [hnone]

theorem dot_nonzero : dot ≠ 0 := by decide

theorem cString_nil : cString [] = [] := rfl

theorem cString_cons (c : UInt16) (str : List UInt16) :
    cString (c :: str) = if c = 0 then [] else c :: cString str := by
  unfold cString
  rw [takeWhile_cons]
  by_cases h : c = 0
  · subst h
    rfl
  · rw [if_pos (decide_eq_true h), if_neg h]

theorem cString_eq_nil_iff {c : UInt16} : cString (c :: str) = [] ↔ c = 0 := by
  rw [cString_cons]
  by_cases h : c = 0
  · simp [h]
  · simp [h]

theorem cString_eq_cons_iff {c d : UInt16} {text : List UInt16} :
    cString (c :: str) = d :: text ↔ c ≠ 0 ∧ c = d ∧ cString str = text := by
  rw [cString_cons]
  by_cases h : c = 0
  · simp [h]
  · simp [h]

theorem isDots_nonempty (h : str ≠ []) :
    isDots str = .ok (decide (cString str = [dot] ∨ cString str = [dot, dot])) := by
  have hdot := dot_nonzero
  match str, h with
  | [c], _ =>
      refine congrArg Except.ok (decide_eq_decide.2 ?_)
      rw [cString_eq_cons_iff, cString_eq_cons_iff, cString_nil]
      grind
  | [c₀, c₁], _ =>
      refine congrArg Except.ok (decide_eq_decide.2 ?_)
      rw [cString_eq_cons_iff, cString_eq_cons_iff, cString_eq_nil_iff, cString_eq_cons_iff,
        cString_nil]
      grind
  | c₀ :: c₁ :: c₂ :: rest, _ =>
      refine congrArg Except.ok (decide_eq_decide.2 ?_)
      rw [cString_eq_cons_iff, cString_eq_cons_iff, cString_eq_nil_iff, cString_eq_cons_iff,
        cString_eq_nil_iff]
      grind

theorem isBaseRest_nonempty (h : str ≠ []) :
    ∃ b, isBaseRest str = .ok b ∧ (b = true ↔ (∀ c ∈ str, ¬ IsSeparator c) ∧
      cString str ≠ [dot] ∧ cString str ≠ [dot, dot]) := by
  unfold isBaseRest
  rw [isDots_nonempty h]
  refine ⟨_, rfl, ?_⟩
  rw [Bool.and_eq_true, all_eq_true, Bool.not_eq_true', decide_eq_false_iff_not, not_or]
  simp only [decide_eq_true_eq]
  exact and_comm

theorem isBaseRest_remainder (h : remainder name ≠ []) :
    ∃ b, isBaseRest (remainder name) = .ok b ∧ (b = true ↔ Base name) := by
  obtain ⟨b, hb, hiff⟩ := isBaseRest_nonempty h
  refine ⟨b, hb, hiff.trans ?_⟩
  constructor
  · rintro ⟨hplain, hdot, hdots⟩
    exact ⟨hplain, hdot, hdots⟩
  · intro hbase
    exact ⟨hbase.plain, hbase.notDot, hbase.notDots⟩

theorem remainder_inside (h : telecom <+: name) :
    remainder name = name.drop telecom.length := if_pos h

theorem remainder_outside (h : ¬ telecom <+: name) : remainder name = name := if_neg h

theorem not_short_of_not_runsOut (hname : name ≠ []) (h : ¬ RunsOut name) :
    ¬ (name <+: telecom ∧ name.length < 8) := fun hshort => h ⟨hname, hshort.1⟩

theorem remainder_ne_nil (hname : name ≠ []) (h : ¬ RunsOut name) : remainder name ≠ [] := by
  by_cases hinside : telecom <+: name
  · rw [remainder_inside hinside]
    intro hnil
    obtain ⟨rest, rfl⟩ := hinside
    rw [drop_left] at hnil
    subst hnil
    exact h ⟨hname, by simp⟩
  · rwa [remainder_outside hinside]

/-- The check decides whether a name is a base name, unless it runs into its end. -/
theorem isBaseName_of_not_runsOut (h : ¬ RunsOut name) :
    ∃ b, isBaseName name = .ok b ∧ (b = true ↔ Base name) := by
  unfold isBaseName
  by_cases hname : name = []
  · subst hname
    exact ⟨true, rfl, by simp [base_nil]⟩
  · rw [if_neg hname]
    obtain ⟨o, ho, hcmp⟩ := strncmpUtf16_telecom (not_short_of_not_runsOut hname h)
    rw [ho, ok_bind]
    have hrest : (if o = .eq then name.drop telecom.length else name) = remainder name :=
      if_congr hcmp rfl rfl
    rw [hrest]
    exact isBaseRest_remainder (remainder_ne_nil hname h)

theorem isBaseName_of_runsOut (h : RunsOut name) : isBaseName name = .error .outOfBounds := by
  obtain ⟨hname, hpart⟩ := h
  unfold isBaseName
  rw [if_neg hname]
  by_cases hshort : name.length < 8
  · rw [strncmpUtf16_telecom_short hpart hshort, error_bind]
  · have hall : name = telecom := hpart.eq_of_length_le (Nat.not_lt.1 hshort)
    subst hall
    rfl

/-! ## What a pass through the headers does to the name -/

namespace GenericObject

/-- The name that the object has is no path. -/
def NameBase (obj : GenericObject) : Prop := ∀ name ∈ obj.name, Base name

theorem nameBase_zero : zero.NameBase := nofun

theorem nameBase_of_none {obj : GenericObject} (h : obj.name = none) : obj.NameBase := by
  intro name hname
  rw [h] at hname
  cases hname

end GenericObject

/-- The name that a pass through the headers puts to the check, for an object without a
name: the first one, unless a header before it ends the pass. -/
def checkedName (typed sized : Bool) (memory : Memory) : List Header → Option (List UInt16)
  | [] => none
  | .unicode 1 str :: _ => some str
  | .byteseq 2 _ :: headers =>
      if typed then checkedName typed sized memory headers
      else if memory.takeBlock.1 then checkedName true sized memory.takeBlock.2 headers
      else none
  | .uInt32 3 length :: headers =>
      if sized then checkedName typed sized memory headers
      else if length.toNat = 0 then none
      else checkedName typed true memory headers
  | .byteseq 9 body :: headers => checkedName typed (sized || !body.isEmpty) memory headers
  | _ :: headers => checkedName typed sized memory headers

namespace Parsing

/-- The name that the rest of the headers puts to the check. -/
def checked (p : Parsing) (headers : List Header) : Option (List UInt16) :=
  checkedName p.obj.type.isSome (decide (p.obj.objSize ≠ 0)) p.memory headers

/-- The check of the name, if there is one, does not run into the end of the name. -/
def Careful (p : Parsing) (headers : List Header) : Prop :=
  p.obj.name = none → ∀ name ∈ p.checked headers, ¬ RunsOut name

theorem parseType_name (p : Parsing) (data : List UInt8) :
    (p.parseType data).2.obj.name = p.obj.name := by
  unfold parseType
  split
  · rfl
  · split <;> rfl

theorem parseLength_name (p : Parsing) (length : Nat) :
    (p.parseLength length).2.obj.name = p.obj.name := by
  unfold parseLength
  split
  · rfl
  · split <;> rfl

theorem parseType_checked (p : Parsing) (data : List UInt8) (headers : List Header) :
    p.checked (.byteseq 2 data :: headers) =
      if (p.parseType data).1 = .ok then (p.parseType data).2.checked headers else none := by
  unfold parseType checked
  rw [checkedName]
  by_cases htyped : p.obj.type.isSome
  · rw [if_pos htyped, if_pos htyped, if_pos rfl]
  · rw [if_neg htyped, if_neg htyped]
    cases htake : p.memory.takeBlock with
    | mk room memory =>
        cases room with
        | true => rfl
        | false => rfl

theorem parseLength_checked (p : Parsing) (length : UInt32) (headers : List Header) :
    p.checked (.uInt32 3 length :: headers) =
      if (p.parseLength length.toNat).1 = .ok
      then (p.parseLength length.toNat).2.checked headers else none := by
  unfold parseLength checked
  rw [checkedName]
  by_cases hsized : p.obj.objSize ≠ 0
  · rw [if_pos hsized, if_pos (decide_eq_true hsized), if_pos rfl]
  · rw [if_neg hsized, if_neg (by simpa using hsized)]
    by_cases hzero : length.toNat = 0
    · rw [if_pos hzero, if_pos hzero]
      rfl
    · rw [if_neg hzero, if_neg hzero, if_pos rfl, decide_eq_true hzero]

theorem parseEndOfBody_checked (p : Parsing) (body : List UInt8) (headers : List Header) :
    p.checked (.byteseq 9 body :: headers) = (p.parseEndOfBody body).checked headers := by
  unfold parseEndOfBody checked
  rw [checkedName]
  by_cases hsized : p.obj.objSize = 0
  · cases body with
    | nil => simp [hsized]
    | cons b body => simp [hsized]
  · simp [hsized]

variable {p : Parsing} {headers : List Header}

/-- A header other than the name leaves the name as it is, and the rest of the headers puts
the same name to the check, unless the pass ends. -/
theorem parseHeader_other {header : Header} (h : ∀ str, header ≠ .unicode 1 str)
    (headers : List Header) :
    ∃ status p', p.parseHeader header = .ok (status, p') ∧ p'.obj.name = p.obj.name ∧
      p.checked (header :: headers) = if status = .ok then p'.checked headers else none := by
  fun_cases parseHeader p header with
  | case1 str => exact absurd rfl (h str)
  | case2 data => exact ⟨_, _, rfl, p.parseType_name data, p.parseType_checked data headers⟩
  | case3 length =>
      exact ⟨_, _, rfl, p.parseLength_name length.toNat, p.parseLength_checked length headers⟩
  | case4 body => exact ⟨_, _, rfl, rfl, rfl⟩
  | case5 body => exact ⟨_, _, rfl, rfl, p.parseEndOfBody_checked body headers⟩
  | case6 _ h1 h2 h3 h4 h5 =>
      refine ⟨_, _, rfl, rfl, ?_⟩
      unfold checked
      rw [checkedName, if_pos rfl]
      · exact fun str heq => h1 str heq
      · exact fun data heq => h2 data heq
      · exact fun length heq => h3 length heq
      · exact fun body heq => h5 body heq

theorem parseHeaders_cons (p : Parsing) (header : Header) (headers : List Header) :
    p.parseHeaders (header :: headers) = do
      let (status, p) ← p.parseHeader header
      if status = .ok then p.parseHeaders headers
      else return (status, { p with obj := p.obj.cleanup }) := rfl

/-- Once the object has a name, no name is checked. -/
theorem parseHeaders_named (hname : p.obj.name.isSome) (headers : List Header) :
    ∃ r, p.parseHeaders headers = .ok r ∧ (r.1 = .ok → r.2.obj.name = p.obj.name) ∧
      (r.1 ≠ .ok → r.2.obj.name = none) := by
  induction headers generalizing p with
  | nil => exact ⟨_, rfl, fun _ => rfl, fun h => absurd rfl h⟩
  | cons header headers ih =>
      rw [parseHeaders_cons]
      by_cases h : ∃ str, header = .unicode 1 str
      · obtain ⟨str, rfl⟩ := h
        have hskip : p.parseHeader (.unicode 1 str) = .ok (.ok, p) := if_pos hname
        rw [hskip, ok_bind]
        exact ih hname
      · obtain ⟨status, p', hparse, hsame, -⟩ :=
          @parseHeader_other p header (fun str heq => h ⟨str, heq⟩) headers
        rw [hparse, ok_bind]
        dsimp only
        by_cases hstatus : status = .ok
        · rw [if_pos hstatus]
          obtain ⟨r, hr, hok, herror⟩ := @ih p' (by rwa [hsame])
          exact ⟨r, hr, fun hr1 => (hok hr1).trans hsame, herror⟩
        · rw [if_neg hstatus]
          exact ⟨_, rfl, fun heq => absurd heq hstatus, fun _ => rfl⟩

theorem parseName_new (hname : p.obj.name = none) (h : ¬ RunsOut str) :
    ∃ status p', p.parseName str = .ok (status, p') ∧
      (status = .ok → p'.obj.name = some str ∧ Base str) := by
  obtain ⟨b, hb, hbase⟩ := isBaseName_of_not_runsOut h
  unfold parseName
  rw [if_neg (by simp [hname]), hb, ok_bind]
  cases b with
  | false => exact ⟨_, _, rfl, nofun⟩
  | true =>
      rw [if_pos rfl]
      cases htake : p.memory.takeBlock with
      | mk room memory =>
          cases room with
          | true => exact ⟨_, _, rfl, fun _ => ⟨rfl, hbase.1 rfl⟩⟩
          | false => exact ⟨_, _, rfl, nofun⟩

theorem nameBase_named (hname : p.obj.name.isSome) (hbase : p.obj.NameBase)
    (headers : List Header) :
    ∃ r, p.parseHeaders headers = .ok r ∧ r.2.obj.NameBase := by
  obtain ⟨r, hr, hok, herror⟩ := parseHeaders_named hname headers
  refine ⟨r, hr, ?_⟩
  by_cases hstatus : r.1 = .ok
  · unfold GenericObject.NameBase
    rwa [hok hstatus]
  · exact GenericObject.nameBase_of_none (herror hstatus)

theorem checked_name (p : Parsing) (str : List UInt16) (headers : List Header) :
    p.checked (.unicode 1 str :: headers) = some str := rfl

/-- A careful pass ends, and the name it leaves is no path. -/
theorem parseHeaders_careful (h : p.Careful headers) (hbase : p.obj.NameBase) :
    ∃ r, p.parseHeaders headers = .ok r ∧ r.2.obj.NameBase := by
  induction headers generalizing p with
  | nil => exact ⟨_, rfl, hbase⟩
  | cons header headers ih =>
      by_cases hnamed : p.obj.name.isSome
      · exact nameBase_named hnamed hbase _
      have hnone : p.obj.name = none := Option.not_isSome_iff_eq_none.1 hnamed
      rw [parseHeaders_cons]
      by_cases hheader : ∃ str, header = .unicode 1 str
      · obtain ⟨str, rfl⟩ := hheader
        obtain ⟨status, p', hparse, hkept⟩ := parseName_new hnone (h hnone str (checked_name ..))
        rw [show p.parseHeader (.unicode 1 str) = .ok (status, p') from hparse, ok_bind]
        dsimp only
        by_cases hstatus : status = .ok
        · obtain ⟨hname, hstr⟩ := hkept hstatus
          rw [if_pos hstatus]
          refine nameBase_named (by rw [hname]; rfl) ?_ headers
          intro name hmem
          rw [hname] at hmem
          cases hmem
          exact hstr
        · rw [if_neg hstatus]
          exact ⟨_, rfl, GenericObject.nameBase_of_none rfl⟩
      · obtain ⟨status, p', hparse, hsame, hchecked⟩ :=
          @parseHeader_other p header (fun str heq => hheader ⟨str, heq⟩) headers
        rw [hparse, ok_bind]
        dsimp only
        by_cases hstatus : status = .ok
        · rw [if_pos hstatus] at hchecked ⊢
          refine ih (fun _ name hmem => h hnone name (hchecked ▸ hmem)) ?_
          unfold GenericObject.NameBase
          rwa [hsame]
        · rw [if_neg hstatus]
          exact ⟨_, rfl, GenericObject.nameBase_of_none rfl⟩

/-- Any other pass reads behind the name. -/
theorem parseHeaders_careless (h : ¬ p.Careful headers) :
    p.parseHeaders headers = .error .outOfBounds := by
  obtain ⟨hnone, name, hmem, hruns⟩ : p.obj.name = none ∧ ∃ name ∈ p.checked headers,
      RunsOut name := by
    unfold Careful at h
    push Not at h
    exact h
  induction headers generalizing p with
  | nil => cases hmem
  | cons header headers ih =>
      rw [parseHeaders_cons]
      by_cases hheader : ∃ str, header = .unicode 1 str
      · obtain ⟨str, rfl⟩ := hheader
        cases hmem
        have hparse : p.parseName name = .error .outOfBounds := by
          unfold parseName
          rw [if_neg (by simp [hnone]), isBaseName_of_runsOut hruns, error_bind]
        rw [show p.parseHeader (.unicode 1 name) = .error .outOfBounds from hparse, error_bind]
      · obtain ⟨status, p', hparse, hsame, hchecked⟩ :=
          @parseHeader_other p header (fun str heq => hheader ⟨str, heq⟩) headers
        rw [hparse, ok_bind]
        dsimp only
        by_cases hstatus : status = .ok
        · rw [if_pos hstatus] at hchecked ⊢
          have hnone' : p'.obj.name = none := hsame.trans hnone
          have hmem' : name ∈ p'.checked headers := hchecked ▸ hmem
          exact ih (fun hcareful => hcareful hnone' name hmem' hruns) hnone' hmem'
        · rw [if_neg hstatus] at hchecked
          rw [hchecked] at hmem
          cases hmem

/-- A careful pass ends, whatever the name of the object is. -/
theorem parseHeaders_ends (h : p.Careful headers) : ∃ r, p.parseHeaders headers = .ok r := by
  by_cases hnamed : p.obj.name.isSome
  · obtain ⟨r, hr, -⟩ := parseHeaders_named hnamed headers
    exact ⟨r, hr⟩
  · have hnone := Option.not_isSome_iff_eq_none.1 hnamed
    obtain ⟨r, hr, -⟩ := parseHeaders_careful h (GenericObject.nameBase_of_none hnone)
    exact ⟨r, hr⟩

end Parsing

end Opp
