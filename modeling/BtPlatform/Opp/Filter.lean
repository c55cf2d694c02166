import BtPlatform.Opp.Served

/-!
# The format filter of the server

A push is to proceed exactly if the type of the object, or the suffix of its name where no
type is given, is that of a supported format. The comparison ends where the type does, and
for a name without a known suffix the type is empty: what agrees with a MIME type so far as
it goes need not be it.
-/

namespace Opp

open Obex Support List

/-! ## Types -/

/-- The format is among the supported ones. -/
def Format.In (format : Format) (formats : UInt32) : Prop := formats &&& format.bits ≠ 0

instance (format : Format) (formats : UInt32) : Decidable (format.In formats) :=
  inferInstanceAs (Decidable (_ ≠ _))

/-- A type without regard to case. -/
def upper (type : List UInt8) : List UInt8 := type.map toUpper

/-- A type is a MIME type, but for its case and one terminator. -/
def Equals (type mime : List UInt8) : Prop :=
  upper type = upper mime ∨ upper type = upper mime ++ [0]

/-- A type agrees with a MIME type as far as either of them goes. -/
def Agrees (type mime : List UInt8) : Prop :=
  upper type <+: upper mime ∨ upper mime ++ [0] <+: upper type

instance (type mime : List UInt8) : Decidable (Agrees type mime) :=
  inferInstanceAs (Decidable (_ ∨ _))

/-- A type that is a proper part of a MIME type, or has something behind the terminator. -/
def Loose (type mime : List UInt8) : Prop :=
  (upper type <+: upper mime ∧ type.length < mime.length) ∨
    (upper mime ++ [0] <+: upper type ∧ mime.length + 1 < type.length)

theorem upper_length (type : List UInt8) : (upper type).length = type.length := length_map _

variable {type mime : List UInt8} {format : Format}

theorem Equals.agrees (h : Equals type mime) : Agrees type mime := by
  obtain h | h := h
  · exact .inl (h ▸ prefix_refl _)
  · exact .inr (h ▸ prefix_refl _)

theorem agrees_iff : Agrees type mime ↔ Equals type mime ∨ Loose type mime := by
  constructor
  · rintro (h | h)
    · by_cases hlength : type.length < mime.length
      · exact .inr (.inl ⟨h, hlength⟩)
      · left
        left
        apply h.eq_of_length_le
        rw [upper_length, upper_length]
        exact Nat.not_lt.1 hlength
    · by_cases hlength : mime.length + 1 < type.length
      · exact .inr (.inr ⟨h, hlength⟩)
      · left
        right
        symm
        apply h.eq_of_length_le
        rw [length_append, upper_length, upper_length]
        exact Nat.not_lt.1 hlength
  · rintro (h | h | h)
    · exact h.agrees
    · exact .inl h.1
    · exact .inr h.1

theorem not_loose_of_equals (h : Equals type mime) : ¬ Loose type mime := by
  have hlength : type.length = mime.length ∨ type.length = mime.length + 1 := by
    obtain h | h := h
    · left
      simpa [upper] using congrArg length h
    · right
      simpa [upper] using congrArg length h
  rintro (⟨hpart, hshort⟩ | ⟨-, hlong⟩)
  · omega
  · omega

theorem mime_nonzero (format : Format) : ∀ b ∈ format.mime, toUpper b ≠ 0 := by
  have h : format.mime.all (fun b => toUpper b != 0) = true := by
    cases format <;> decide
  intro b hb
  exact bne_iff_ne.1 (all_eq_true.1 h b hb)

theorem strncmpInsensitive_mime (type : List UInt8) (format : Format) :
    strncmpInsensitive type (literal format.mime) type.length =
      .ok (decide (Agrees type format.mime)) := by
  have hiff := @strncmp_text_eq_iff _ _ _ 0 toUpper _ type format.mime 0 rfl (mime_nonzero format)
  have hsome : (strncmp 0 toUpper type (format.mime ++ [0]) type.length).isSome :=
    strncmp_text_isSome rfl
  obtain ⟨o, ho⟩ := Option.isSome_iff_exists.1 hsome
  unfold strncmpInsensitive literal
  rw [ho]
  rw [ho, Option.some_inj] at hiff
  exact congrArg Except.ok (decide_eq_decide.2 hiff)

/-- The first format whose type agrees with a type. -/
def firstAgreeing (type : List UInt8) : Option Format :=
  Format.byType.find? fun format => decide (Agrees type format.mime)

theorem isSupportedAmong_eq (type : List UInt8) (formats : UInt32) (among : List Format) :
    isSupportedAmong type formats among =
      .ok ((among.find? fun format => decide (Agrees type format.mime)).any
        fun format => decide (format.In formats)) := by
  induction among with
  | nil => rfl
  | cons format rest ih =>
      unfold isSupportedAmong
      rw [strncmpInsensitive_mime, ok_bind]
      by_cases h : Agrees type format.mime
      · rw [decide_eq_true h, if_pos rfl, find?_cons, decide_eq_true h]
        rfl
      · rw [decide_eq_false h, if_neg Bool.false_ne_true, find?_cons, decide_eq_false h]
        exact ih

/-- What the filter decides. -/
theorem isSupportedType_eq {formats : UInt32} (h : formats ≠ formatAny) (type : List UInt8) :
    isSupportedType type formats =
      .ok ((firstAgreeing type).any fun format => decide (format.In formats)) := by
  unfold isSupportedType
  rw [if_neg h]
  exact isSupportedAmong_eq type formats _

/-- No two formats have types that agree. -/
theorem mime_agrees_iff (f g : Format) : Agrees f.mime g.mime ↔ f = g := by
  cases f <;> cases g <;> decide

theorem literal_agrees_iff (f g : Format) : Agrees (literal f.mime) g.mime ↔ f = g := by
  cases f <;> cases g <;> decide

theorem agrees_congr {type' : List UInt8} (h : upper type = upper type') (mime : List UInt8) :
    Agrees type mime ↔ Agrees type' mime := by
  unfold Agrees
  rw [h]

theorem upper_literal (mime : List UInt8) : upper (literal mime) = upper mime ++ [0] := by
  unfold upper literal
  rw [map_append]
  rfl

/-- The MIME type of one format agrees with that of no other. -/
theorem Equals.agrees_iff {f : Format} (h : Equals type f.mime) (g : Format) :
    Agrees type g.mime ↔ f = g := by
  obtain h | h := h
  · exact (agrees_congr h g.mime).trans (mime_agrees_iff f g)
  · rw [← upper_literal] at h
    exact (agrees_congr h g.mime).trans (literal_agrees_iff f g)

theorem firstAgreeing_of_equals (h : Equals type format.mime) :
    firstAgreeing type = some format := by
  unfold firstAgreeing
  simp only [h.agrees_iff]
  cases format <;> rfl

theorem agrees_of_firstAgreeing (h : firstAgreeing type = some format) :
    Agrees type format.mime := by
  have := find?_some h
  exact of_decide_eq_true this

/-- The type is the MIME type of a supported format. -/
def TypeSupported (formats : UInt32) (type : List UInt8) : Prop :=
  ∃ format : Format, format.In formats ∧ Equals type format.mime

/-- The filter decides about a type as it should, unless the first type that it agrees with
is supported and only agrees loosely. -/
theorem typeSupported_iff (formats : UInt32) (type : List UInt8) :
    ((firstAgreeing type).any (fun format => decide (format.In formats)) = true ↔
        TypeSupported formats type) ↔
      ∀ format ∈ firstAgreeing type, format.In formats → ¬ Loose type format.mime := by
  constructor
  · intro h format hfirst hin hloose
    rw [Option.mem_def.1 hfirst] at h
    obtain ⟨other, -, hequals⟩ := h.1 (decide_eq_true hin)
    have hsame := (firstAgreeing_of_equals hequals).symm.trans hfirst
    cases hsame
    exact not_loose_of_equals hequals hloose
  · intro h
    constructor
    · intro hany
      obtain ⟨format, hfirst, hin⟩ := (Option.any_eq_true _ _).1 hany
      have hin : format.In formats := of_decide_eq_true hin
      obtain hequals | hloose := agrees_iff.1 (agrees_of_firstAgreeing hfirst)
      · exact ⟨format, hin, hequals⟩
      · exact absurd hloose (h format hfirst hin)
    · rintro ⟨format, hin, hequals⟩
      rw [firstAgreeing_of_equals hequals]
      exact decide_eq_true hin

/-! ## Suffixes -/

/-- The low byte of a character. -/
def lowByte (c : UInt16) : UInt8 := UInt8.ofNat (c.toNat % 256)

/-- A character of a suffix. -/
def wide (b : UInt8) : UInt16 := UInt16.ofNat b.toNat

/-- A name ends with the suffix of the format, behind something else, if the terminators at
its end are left out. -/
def HasSuffix (name : List UInt16) (format : Format) : Prop :=
  ∃ base, base ≠ [] ∧ trimmed name = base ++ format.suffix.map wide

/-- The last characters of a name have the suffix of the format in their low bytes. -/
def LowSuffix (name : List UInt16) (format : Format) : Prop :=
  ∃ base chars, base ≠ [] ∧ trimmed name = base ++ chars ∧ chars.map lowByte = format.suffix

theorem lowByte_wide (b : UInt8) : lowByte (wide b) = b := by
  apply UInt8.toNat.inj
  unfold lowByte wide
  have := b.toNat_lt
  simp only [UInt16.toNat_ofNat', UInt8.toNat_ofNat']
  omega

theorem HasSuffix.low {name : List UInt16} (h : HasSuffix name format) : LowSuffix name format := by
  obtain ⟨base, hbase, hname⟩ := h
  refine ⟨base, _, hbase, hname, ?_⟩
  rw [map_map]
  exact (map_congr_left fun b _ => lowByte_wide b).trans (map_id' _)

theorem suffix_length (format : Format) : format.suffix.length = 4 := by
  cases format <;> rfl

theorem suffix_injective {f g : Format} (h : f.suffix = g.suffix) : f = g := by
  revert h
  cases f <;> cases g <;> decide

theorem lowSuffix_iff {name : List UInt16} :
    LowSuffix name format ↔ 5 ≤ (trimmed name).length ∧
      ((trimmed name).drop ((trimmed name).length - 4)).map lowByte = format.suffix := by
  constructor
  · rintro ⟨base, chars, hbase, hname, hlow⟩
    have hchars : chars.length = 4 := by
      rw [← suffix_length format, ← hlow, length_map]
    have hpos := length_pos_iff.2 hbase
    rw [hname, length_append, hchars]
    refine ⟨by omega, ?_⟩
    rw [show base.length + 4 - 4 = base.length by omega, drop_left]
    exact hlow
  · rintro ⟨hlength, hlow⟩
    refine ⟨(trimmed name).take ((trimmed name).length - 4), _, ?_,
      (take_append_drop _ _).symm, hlow⟩
    rw [← length_pos_iff, length_take]
    omega

theorem objTypeFromSuffix_of_low {name : List UInt16} (h : LowSuffix name format) :
    objTypeFromSuffix name = format.mime := by
  obtain ⟨hlength, hlow⟩ := lowSuffix_iff.1 h
  unfold objTypeFromSuffix
  dsimp only
  rw [if_pos hlength]
  have hlow : ((trimmed name).drop ((trimmed name).length - 4)).map
      (fun c => UInt8.ofNat (c.toNat % 256)) = format.suffix := hlow
  rw [hlow]
  cases format <;> rfl

theorem objTypeFromSuffix_of_not_low {name : List UInt16} (h : ∀ format, ¬ LowSuffix name format) :
    objTypeFromSuffix name = [] := by
  unfold objTypeFromSuffix
  dsimp only
  by_cases hlength : 5 ≤ (trimmed name).length
  · rw [if_pos hlength]
    have hnone : Format.bySuffix.find? (fun format => decide (format.suffix =
        ((trimmed name).drop ((trimmed name).length - 4)).map
          fun c => UInt8.ofNat (c.toNat % 256))) = none := by
      rw [find?_eq_none]
      intro format _ hsame
      exact h format (lowSuffix_iff.2 ⟨hlength, (of_decide_eq_true hsame).symm⟩)
    rw [hnone]
    rfl
  · exact if_neg hlength

theorem firstAgreeing_mime (format : Format) : firstAgreeing format.mime = some format :=
  firstAgreeing_of_equals (.inl rfl)

/-- The name has the suffix of a supported format. -/
def SuffixSupported (formats : UInt32) (name : List UInt16) : Prop :=
  ∃ format : Format, format.In formats ∧ HasSuffix name format

/-- A suffix that the code takes for what it is: the low bytes are those of a supported
format only if the characters are, and vCard is not supported if there is no suffix. -/
structure ClearSuffix (formats : UInt32) (name : List UInt16) : Prop where
  exact : ∀ format : Format, LowSuffix name format → format.In formats → HasSuffix name format
  known : Format.vCard.In formats → ∃ format, LowSuffix name format

theorem firstAgreeing_nil : firstAgreeing [] = some .vCard := rfl

/-- The filter decides about a name without a type as it should exactly if the suffix is
clear. -/
theorem suffixSupported_iff (formats : UInt32) (name : List UInt16) :
    ((firstAgreeing (objTypeFromSuffix name)).any (fun format => decide (format.In formats)) =
        true ↔ SuffixSupported formats name) ↔ ClearSuffix formats name := by
  by_cases hlow : ∃ format, LowSuffix name format
  · obtain ⟨format, hlow⟩ := hlow
    have hunique : ∀ other, LowSuffix name other → other = format := by
      intro other hother
      apply suffix_injective
      rw [← (lowSuffix_iff.1 hother).2, ← (lowSuffix_iff.1 hlow).2]
    rw [objTypeFromSuffix_of_low hlow, firstAgreeing_mime, Option.any_some, decide_eq_true_iff]
    constructor
    · intro h
      refine ⟨fun other hother hin => ?_, fun _ => ⟨format, hlow⟩⟩
      cases hunique other hother
      obtain ⟨found, -, hsuffix⟩ := h.1 hin
      cases hunique found hsuffix.low
      exact hsuffix
    · intro h
      constructor
      · intro hin
        exact ⟨format, hin, h.exact format hlow hin⟩
      · rintro ⟨found, hin, hsuffix⟩
        cases hunique found hsuffix.low
        exact hin
  · have hnone : ∀ format, ¬ LowSuffix name format := not_exists.1 hlow
    rw [objTypeFromSuffix_of_not_low hnone, firstAgreeing_nil, Option.any_some,
      decide_eq_true_iff]
    have hunsupported : ¬ SuffixSupported formats name := by
      rintro ⟨format, -, hsuffix⟩
      exact hnone format hsuffix.low
    constructor
    · intro h
      exact ⟨fun format hformat => absurd hformat (hnone format),
        fun hin => absurd (h.1 hin) hunsupported⟩
    · intro h
      constructor
      · intro hin
        exact absurd (h.known hin) hlow
      · exact fun h => absurd h hunsupported

/-! ## Pushes -/

/-- The filter is to let an object through: by its type, or by the suffix of its name. -/
def Supported (formats : UInt32) (name : List UInt16) : Option (List UInt8) → Prop
  | some type => TypeSupported formats type
  | none => SuffixSupported formats name

/-- A type or a name about which the filter decides as it should. -/
def ClearFormat (formats : UInt32) (name : List UInt16) : Option (List UInt8) → Prop
  | some type => ∀ format ∈ firstAgreeing type, format.In formats → ¬ Loose type format.mime
  | none => ClearSuffix formats name

theorem supported_iff (formats : UInt32) (name : List UInt16) (type : Option (List UInt8)) :
    ((firstAgreeing (type.getD (objTypeFromSuffix name))).any
        (fun format => decide (format.In formats)) = true ↔ Supported formats name type) ↔
      ClearFormat formats name type := by
  cases type with
  | some type => exact typeSupported_iff formats type
  | none => exact suffixSupported_iff formats name

/-- A call that opens the object, or asks the application to. -/
def ServerAct.opens : ServerAct → Bool
  | .openWrite .. | .push .. => true
  | _ => false

namespace Serving

variable {reg : Registration} {s : Serving} {env : Surroundings} {c : ServerConnection}

/-- The connection after a close that was outstanding. -/
def afterClose (reg : Registration) (s : Serving) : Serving :=
  s.connection.elim s (s.checkDeferredObjectClose reg)

/-- A step opens an object: of the calls that are added the first does. -/
def Opens (before after : Serving) : Prop :=
  ∃ act : ServerAct, act.opens = true ∧ after.acts = before.acts ++ [act]

variable {name : List UInt16} {after : Serving} {r : Status × Serving}
variable {cmdHeaders : Option (List Header)}

theorem not_opens_of_same (h : after.acts = s.acts) : ¬ Opens s after := by
  rintro ⟨act, -, heq⟩
  rw [h] at heq
  exact cons_ne_nil _ _ (self_eq_append_right.1 heq)

theorem not_opens_of_other {act : ServerAct} (hact : act.opens = false)
    (h : after.acts = s.acts ++ [act]) : ¬ Opens s after := by
  rintro ⟨act', hopens, heq⟩
  rw [h] at heq
  cases append_cancel_left heq
  cases hact.symm.trans hopens

/-- A push comes to the filter: its headers are read, and the object has a name. -/
structure AtFilter (reg : Registration) (s : Serving) (env : Surroundings)
    (cmdHeaders : Option (List Header)) (obexStatus : Status) (obj : GenericObject)
    (name : List UInt16) : Prop where
  read : ∃ c, (s.afterClose reg).connection = some c ∧ s.connection.isSome ∧
    c.Reads obexStatus ∧ c.state ≠ .clientPushing ∧
    ∃ headers memory, cmdHeaders = some headers ∧
      Parsing.parseHeaders ⟨c.rcvObj, env.memory⟩ headers = .ok (.ok, ⟨obj, memory⟩)
  named : obj.name = some name

/-- The filter is exact about a push: the headers are read without going behind their
values, and the object is opened exactly if its type, or the suffix of its name, is that of
a supported format. -/
structure ExactPush (reg : Registration) (s : Serving) (env : Surroundings)
    (cmdHeaders : Option (List Header)) (obexStatus : Status) : Prop where
  inside : ∃ r, s.objPushInd reg env cmdHeaders obexStatus = .ok r
  opens : ∀ r, s.objPushInd reg env cmdHeaders obexStatus = .ok r →
    (Opens (s.afterClose reg) r.2 ↔ ∃ obj name,
      AtFilter reg s env cmdHeaders obexStatus obj name ∧
        Supported reg.supportedFormats name obj.type)

/-- A push that the code deals with exactly. -/
structure ClearPush (reg : Registration) (s : Serving) (env : Surroundings)
    (cmdHeaders : Option (List Header)) (obexStatus : Status) : Prop where
  names : s.Careful reg env (.objPushInd cmdHeaders obexStatus)
  format : ∀ obj name, AtFilter reg s env cmdHeaders obexStatus obj name →
    ClearFormat reg.supportedFormats name obj.type

theorem objPushOpen_opens (name : List UInt16) (objType : List UInt8) :
    Opens s (s.objPushOpen reg env c name objType).2 := by
  unfold objPushOpen
  split
  · exact ⟨_, rfl, rfl⟩
  · dsimp only
    split
    · exact ⟨_, rfl, rfl⟩
    · exact ⟨_, rfl, rfl⟩

/-- What becomes of a push that comes to the filter. -/
theorem objPushPending_opens_iff (h : reg.supportedFormats ≠ formatAny)
    (hname : c.rcvObj.name = some name) :
    ∃ r, s.objPushPending reg env c = .ok r ∧
      (Opens s r.2 ↔ (firstAgreeing (c.rcvObj.type.getD (objTypeFromSuffix name))).any
        (fun format => decide (format.In reg.supportedFormats)) = true) := by
  unfold objPushPending
  rw [hname]
  dsimp only
  rw [isSupportedType_eq h, ok_bind]
  refine ⟨_, rfl, ?_⟩
  split
  · next hany => exact iff_of_true (objPushOpen_opens name _) hany
  · next hany => exact iff_of_false (not_opens_of_same rfl) hany

theorem objPushPending_unnamed (hname : c.rcvObj.name = none)
    (h : s.objPushPending reg env c = .ok r) : ¬ Opens s r.2 := by
  unfold objPushPending at h
  rw [hname] at h
  cases h
  exact not_opens_of_same rfl

theorem objPushWriting_other {c' : ServerConnection} (h : after.acts = s.acts ++ [c'.bodyWrite]) :
    ¬ Opens s after :=
  not_opens_of_other rfl h

/-- What becomes of headers that are read. -/
theorem objPushHeaders_opens_iff (h : reg.supportedFormats ≠ formatAny) {headers : List Header}
    (hr : s.objPushHeaders reg env c headers = .ok r) :
    Opens s r.2 ↔ c.state = .pushPending ∧ ∃ obj memory name,
      Parsing.parseHeaders ⟨c.rcvObj, env.memory⟩ headers = .ok (.ok, ⟨obj, memory⟩) ∧
        obj.name = some name ∧
        (firstAgreeing (obj.type.getD (objTypeFromSuffix name))).any
          (fun format => decide (format.In reg.supportedFormats)) = true := by
  unfold objPushHeaders at hr
  obtain ⟨⟨status, obj, memory⟩, hparse, hr⟩ := bind_eq_ok.1 hr
  dsimp only at hr
  rw [hparse]
  by_cases hstatus : status = .ok
  · subst hstatus
    rw [if_neg (not_not.2 rfl)] at hr
    by_cases hpending : c.state = .pushPending
    · rw [if_pos hpending] at hr
      cases hname : obj.name with
      | none =>
          refine iff_of_false (objPushPending_unnamed hname hr) ?_
          rintro ⟨-, obj', memory', name, heq, hnamed, -⟩
          cases heq
          cases hname.symm.trans hnamed
      | some name =>
          obtain ⟨r', hr', hiff⟩ := @objPushPending_opens_iff reg
            (s.set { c with rcvObj := obj }) env { c with rcvObj := obj } name h hname
          cases hr'.symm.trans hr
          refine (Iff.trans hiff ?_)
          constructor
          · intro hany
            exact ⟨hpending, obj, memory, name, rfl, hname, hany⟩
          · rintro ⟨-, obj', memory', name', heq, hnamed, hany⟩
            cases heq
            cases hname.symm.trans hnamed
            exact hany
    · rw [if_neg hpending] at hr
      refine iff_of_false ?_ fun h => hpending h.1
      cases hr
      split
      · exact objPushWriting_other rfl
      · exact objPushWriting_other rfl
  · rw [if_pos hstatus] at hr
    cases hr
    refine iff_of_false (not_opens_of_same rfl) ?_
    rintro ⟨-, obj', memory', name, heq, -⟩
    cases heq
    exact hstatus rfl

variable {obexStatus : Status}

/-- What a push opens: an object that comes to the filter, if the first format whose type
agrees with its own is supported. -/
theorem objPushInd_opens_iff (h : reg.supportedFormats ≠ formatAny)
    (hr : s.objPushInd reg env cmdHeaders obexStatus = .ok r) :
    Opens (s.afterClose reg) r.2 ↔ ∃ obj name,
      AtFilter reg s env cmdHeaders obexStatus obj name ∧
        (firstAgreeing (obj.type.getD (objTypeFromSuffix name))).any
          (fun format => decide (format.In reg.supportedFormats)) = true := by
  cases hc : s.connection with
  | none =>
      have hclose : s.afterClose reg = s := by
        unfold afterClose
        rw [hc]
        rfl
      unfold objPushInd at hr
      rw [hc] at hr
      cases hr
      rw [hclose]
      refine iff_of_false (not_opens_of_same rfl) ?_
      rintro ⟨obj, name, ⟨⟨c, -, hsome, -⟩, -⟩, -⟩
      rw [hc] at hsome
      cases hsome
  | some c =>
      have hclose : s.afterClose reg = s.checkDeferredObjectClose reg c := by
        unfold afterClose
        rw [hc]
        rfl
      rw [hclose]
      cases hc' : (s.checkDeferredObjectClose reg c).connection with
      | none =>
          unfold objPushInd at hr
          rw [hc] at hr
          dsimp only at hr
          rw [hc'] at hr
          cases hr
          refine iff_of_false (not_opens_of_same rfl) ?_
          rintro ⟨obj, name, ⟨⟨c'', hsome, -⟩, -⟩, -⟩
          rw [hclose, hc'] at hsome
          cases hsome
      | some c' =>
          rw [objPushInd_eq hc hc'] at hr
          by_cases hread : ∃ headers, cmdHeaders = some headers ∧ c'.Reads obexStatus
          · obtain ⟨headers, rfl, hreads⟩ := hread
            obtain ⟨c'', hobj, hpending, heq⟩ := @objPushConnection_read reg
              (s.checkDeferredObjectClose reg c) env c' obexStatus hreads headers
            rw [heq] at hr
            rw [objPushHeaders_opens_iff h hr, hpending, hobj]
            constructor
            · rintro ⟨hstate, obj, memory, name, hparse, hname, hany⟩
              exact ⟨obj, name, ⟨⟨c', hclose ▸ hc', by rw [hc]; rfl, hreads, hstate, headers,
                memory, rfl, hparse⟩, hname⟩, hany⟩
            · rintro ⟨obj, name, ⟨⟨c₂, hc₂, -, -, hstate, headers', memory, hheaders, hparse⟩,
                hname⟩, hany⟩
              rw [hclose, hc'] at hc₂
              cases hc₂
              cases hheaders
              exact ⟨hstate, obj, memory, name, hparse, hname, hany⟩
          · obtain ⟨r', hr', hsame, -⟩ := @objPushConnection_unread reg
              (s.checkDeferredObjectClose reg c) env c' cmdHeaders obexStatus (by
                cases cmdHeaders with
                | none => exact .inl rfl
                | some headers => exact .inr fun hreads => hread ⟨headers, rfl, hreads⟩)
            cases hr'.symm.trans hr
            refine iff_of_false (not_opens_of_same hsame) ?_
            rintro ⟨obj, name, ⟨⟨c₂, hc₂, -, hreads, -, headers, memory, hheaders, -⟩, -⟩, -⟩
            rw [hclose, hc'] at hc₂
            cases hc₂
            exact hread ⟨headers, hheaders, hreads⟩

theorem AtFilter.unique {obj obj' : GenericObject} {name' : List UInt16}
    (h : AtFilter reg s env cmdHeaders obexStatus obj name)
    (h' : AtFilter reg s env cmdHeaders obexStatus obj' name') : obj = obj' ∧ name = name' := by
  obtain ⟨⟨c₁, hc₁, -, -, -, headers₁, memory₁, hheaders₁, hparse₁⟩, hname₁⟩ := h
  obtain ⟨⟨c₂, hc₂, -, -, -, headers₂, memory₂, hheaders₂, hparse₂⟩, hname₂⟩ := h'
  cases hc₁.symm.trans hc₂
  cases hheaders₁.symm.trans hheaders₂
  cases hparse₁.symm.trans hparse₂
  exact ⟨rfl, Option.some.inj (hname₁.symm.trans hname₂)⟩

/-- Of a push that comes to the filter nothing is left to choose. -/
theorem AtFilter.exists_iff {obj : GenericObject}
    (h : AtFilter reg s env cmdHeaders obexStatus obj name)
    {P : GenericObject → List UInt16 → Prop} :
    (∃ obj name, AtFilter reg s env cmdHeaders obexStatus obj name ∧ P obj name) ↔
      P obj name := by
  constructor
  · rintro ⟨obj', name', h', hp⟩
    obtain ⟨rfl, rfl⟩ := h.unique h'
    exact hp
  · intro hp
    exact ⟨obj, name, h, hp⟩

/-- The filter is exact about a push precisely if no name belongs to `telecom/` as a whole,
a type that agrees with the type of a supported format before all others is that type, and
without a type the suffix is what its low bytes say, and there if vCard is supported. -/
theorem exactPush_iff_clear (h : reg.supportedFormats ≠ formatAny) (env : Surroundings)
    (cmdHeaders : Option (List Header)) (obexStatus : Status) :
    ExactPush reg s env cmdHeaders obexStatus ↔ ClearPush reg s env cmdHeaders obexStatus := by
  constructor
  · rintro ⟨⟨r, hr⟩, hopens⟩
    refine ⟨?_, fun obj name hat => ?_⟩
    · by_contra hcareless
      rw [objPushInd_careless hcareless] at hr
      cases hr
    · rw [← supported_iff]
      have hany := objPushInd_opens_iff h hr
      rw [hat.exists_iff] at hany
      have hsupported := hopens r hr
      rw [hat.exists_iff] at hsupported
      exact hany.symm.trans hsupported
  · rintro ⟨hnames, hformat⟩
    obtain ⟨r, hr, -⟩ := objPushInd_ends hnames
    refine ⟨⟨r, hr⟩, fun r' hr' => ?_⟩
    rw [objPushInd_opens_iff h hr']
    constructor
    · rintro ⟨obj, name, hat, hany⟩
      exact ⟨obj, name, hat, ((supported_iff _ _ _).2 (hformat obj name hat)).1 hany⟩
    · rintro ⟨obj, name, hat, hsupported⟩
      exact ⟨obj, name, hat, ((supported_iff _ _ _).2 (hformat obj name hat)).2 hsupported⟩

/-- A connection that has just been accepted. -/
def accepted : Serving :=
  start.set { ServerConnection.new with
    state := .connected, allowPush := true, allowPull := true }

/-- The name `a`. -/
def nameHeader : Header := .unicode 1 [0x61]

/-- A server for calendars takes an object with that type. -/
theorem exactPush_iff_clear_calendar :
    ExactPush (plainServer 0x04) accepted .friendly
      (some [nameHeader, .byteseq 2 (literal vCalendarType)]) .ok := by
  rw [exactPush_iff_clear (by decide)]
  refine ⟨?_, ?_⟩
  · intro c hc c' hc' hreads hnone name hname
    cases hc
    cases hc'
    cases hname
    decide
  · rintro obj name ⟨⟨c, hc, -, -, -, headers, memory, hheaders, hparse⟩, hname⟩
    cases hc
    cases hheaders
    have hobj : obj.type = some (literal vCalendarType) := by
      cases hparse
      rfl
    rw [hobj]
    intro format hformat _
    have hfirst : firstAgreeing (literal vCalendarType) = some .vCalendar := rfl
    cases hfirst.symm.trans hformat
    exact not_loose_of_equals (.inr (upper_literal _))

/-- A server for vCards takes an object without a type whose name has no suffix. -/
theorem not_exactPush_untyped :
    ¬ ∀ reg s env cmdHeaders obexStatus, reg.supportedFormats ≠ formatAny →
      ExactPush reg s env cmdHeaders obexStatus := by
  intro h
  have hopens := (h (plainServer 0x03) accepted .friendly (some [nameHeader]) .ok
    (by decide)).opens _ rfl
  have hopened : Opens (accepted.afterClose (plainServer 0x03))
      { accepted with
        connection := some { ServerConnection.new with
          state := .pushPending, allowPush := true, allowPull := true, final := true,
          ofsCfmPending := true, rcvObj := ⟨some [0x61], none, 0, []⟩ }
        acts := [.openWrite (some [0x61]) (some []) 0] } := ⟨_, rfl, rfl⟩
  obtain ⟨obj, name, ⟨⟨c, hc, -, -, -, headers, memory, hheaders, hparse⟩, hname⟩, hsupported⟩ :=
    hopens.1 hopened
  cases hc
  cases hheaders
  have hobj : obj = ⟨some [0x61], none, 0, []⟩ := by
    cases hparse
    rfl
  subst hobj
  cases hname
  obtain ⟨format, -, base, hbase, hbad⟩ := hsupported
  have hlength := congrArg length hbad
  rw [length_append, length_map, suffix_length] at hlength
  have htrimmed : (trimmed [0x61]).length = 1 := rfl
  have := length_pos_iff.2 hbase
  omega

end Serving

end Opp
