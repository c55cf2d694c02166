import BtPlatform.Property.Bounded
import BtPlatform.Property.Map
import BtPlatform.Property.Reload

/-!
# Replies to batched commands

What a client reads back for a message of well-formed commands, compared with a store of exact
names: one value for each `get`, in order, and nothing for a `set`. The one reply buffer of a
message keeps the text of earlier commands, so this depends on the lengths of the values.
-/

namespace Property

open Support List Function

/-! ## Well-formed commands -/

/-- A name or a value as a client writes it. -/
structure Word where
  chars : List UInt8
  nonempty : chars ≠ []
  noTerminator : 0 ∉ chars
  noBlank : blank ∉ chars
  noComma : comma ∉ chars
  fits : chars.length < MAX_ALLOWED_LINE_LEN

/-- The word in a row of its own. -/
def Word.row (word : Word) : Row := ⟨word.chars, word.noTerminator, word.fits⟩

inductive Request
  | get (name : Word)
  | set (name value : Word)

namespace Request

/-- The first word of the command. -/
def keyword : Request → List UInt8
  | get _ => getProperty
  | set _ _ => setProperty

/-- What follows the first word, with the blank in front. -/
def arguments : Request → List UInt8
  | get name => blank :: name.chars
  | set name value => blank :: (name.chars ++ blank :: value.chars)

def text (request : Request) : List UInt8 := request.keyword ++ request.arguments

/-- What the client is to read back. -/
def reply (store : Store) : Request → List UInt8
  | get name => (store name.row).elim [] CString.chars ++ [comma]
  | set _ _ => []

end Request

/-- The store behind the request. -/
def Store.afterRequest (store : Store) : Request → Store
  | .get _ => store
  | .set name value => update store name.row (some value.row)

def replies : Store → List Request → List (List UInt8)
  | _, [] => []
  | store, request :: requests =>
      request.reply store :: replies (store.afterRequest request) requests

/-- The message is handled, the bytes written back are the replies, and an action is executed
for a name only that is its own. -/
def Answered (allocated : Nat → Bool) (list : List PropertyUnit) (received : List UInt8)
    (requests : List Request) : Prop :=
  ∃ s, handleReceived allocated list received = .ok s ∧
    s.sent.flatten = (replies (fun name => lookup name list) requests).flatten ∧
      ∀ action ∈ s.actions, action.2.chars = action.1.property

/-! ## The condition -/

/-- The length of the reply that the value covers: none is covered without a value. -/
def covered : Option Value → Nat
  | some value => value.chars.length + 1
  | none => 0

/-- The requests come in an order that the one reply buffer stands, when its text has this
length: a `get` finds the value of exactly that name, which covers what is in the buffer and
leaves room for the terminator; a `set` comes before any `get`, is not taken for one, and starts
an action for the name of the action only. -/
def InOrder (allocated : Nat → Bool) : Nat → Nat → List PropertyUnit → Store → List Request → Prop
  | _, _, _, _, [] => True
  | i, m, list, store, .get name :: requests =>
      let found := getPropertyValueBt name.row list
      (found.elim [] CString.chars = (store name.row).elim [] CString.chars ∧ m ≤ covered found ∧
        covered found < MAX_ALLOWED_LINE_LEN) ∧
        InOrder allocated (i + 1) (nextLength m found) list store requests
  | i, m, list, store, .set name value :: requests =>
      (m = 0 ∧ ¬getProperty <:+: (Request.set name value).text ∧
        ∀ action ∈ actionsOf name.row value.row, name.chars = action.property) ∧
        InOrder allocated (i + 1) m (updatePropValue (allocated i) name.row value.row list).1
          (update store name.row (some value.row)) requests

/-- The message fits the arrays, and its requests come in order. -/
structure Orderly (allocated : Nat → Bool) (list : List PropertyUnit) (received : List UInt8)
    (requests : List Request) : Prop where
  terminated : received.length < 1024 ∨ 0 ∈ received
  rows : requests.length ≤ MAX_ALLOWED_LINE_LEN
  short : ∀ request ∈ requests, request.text.length < MAX_ALLOWED_LINE_LEN
  words : ∀ command ∈ commandsOf (receivedText received), WordsFit command
  order : InOrder allocated 0 0 list (fun name => lookup name list) requests

/-! ## The words of a command -/

theorem parts_append {delimiter : UInt8} {word : List UInt8} (hword : delimiter ∉ word)
    (rest : List UInt8) :
    parts delimiter (word ++ delimiter :: rest) = word :: parts delimiter rest := by
  induction word with
  | nil => exact if_pos rfl
  | cons b word ih =>
      have hb : b ≠ delimiter := fun hb => hword (hb ▸ mem_cons_self)
      rw [cons_append, parts, if_neg hb, ih fun hmem => hword (mem_cons_of_mem b hmem)]

theorem parts_word {delimiter : UInt8} {word : List UInt8} (hword : delimiter ∉ word)
    (hne : word ≠ []) : parts delimiter word = [word] := by
  induction word with
  | nil => exact absurd rfl hne
  | cons b word ih =>
      have hb : b ≠ delimiter := fun hb => hword (hb ▸ mem_cons_self)
      rw [parts, if_neg hb]
      cases word with
      | nil => rfl
      | cons c word =>
          rw [ih (fun hmem => hword (mem_cons_of_mem b hmem)) (cons_ne_nil c word)]

theorem tokens_append {delimiter : UInt8} {word : List UInt8} (hword : delimiter ∉ word)
    (hne : word ≠ []) (rest : List UInt8) :
    tokens delimiter (word ++ delimiter :: rest) = word :: tokens delimiter rest := by
  unfold tokens
  rw [parts_append hword]
  apply filter_cons_of_pos
  rw [Bool.not_eq_true', isEmpty_eq_false_iff]
  exact hne

theorem tokens_word {delimiter : UInt8} {word : List UInt8} (hword : delimiter ∉ word)
    (hne : word ≠ []) : tokens delimiter word = [word] := by
  unfold tokens
  rw [parts_word hword hne]
  apply filter_cons_of_pos
  rw [Bool.not_eq_true', isEmpty_eq_false_iff]
  exact hne

/-- The first part. -/
theorem parts_head {delimiter : UInt8} {text : List UInt8} (hne : text ≠ []) :
    ∃ others, parts delimiter text = text.takeWhile (· ≠ delimiter) :: others := by
  induction text with
  | nil => exact absurd rfl hne
  | cons b text ih =>
      by_cases hb : b = delimiter
      · have htake : (b :: text).takeWhile (· ≠ delimiter) = [] :=
          takeWhile_cons_of_neg fun h => absurd hb (of_decide_eq_true h)
        rw [parts, if_pos hb, htake]
        exact ⟨_, rfl⟩
      · have htake : (b :: text).takeWhile (· ≠ delimiter) = b :: text.takeWhile (· ≠ delimiter) :=
          takeWhile_cons_of_pos (decide_eq_true hb)
        rw [parts, if_neg hb, htake]
        cases text with
        | nil => exact ⟨[], rfl⟩
        | cons c text =>
            obtain ⟨others, hothers⟩ := ih (cons_ne_nil c text)
            rw [hothers]
            exact ⟨others, rfl⟩

theorem tokens_delimiter (delimiter : UInt8) (text : List UInt8) :
    tokens delimiter (delimiter :: text) = tokens delimiter text := by
  unfold tokens
  rw [parts, if_pos rfl]
  rfl

theorem firstCommand_comma (text : List UInt8) :
    firstCommand (comma :: text) = comma :: firstCommand text := rfl

theorem firstCommand_of_ne {b : UInt8} (hb : b ≠ comma) (text : List UInt8) :
    firstCommand (b :: text) = b :: text.takeWhile (· ≠ comma) := by
  have hfalse : decide (b = comma) = false := decide_eq_false hb
  unfold firstCommand
  rw [takeWhile_cons, dropWhile_cons, hfalse, if_neg Bool.false_ne_true,
    if_neg Bool.false_ne_true, nil_append]
  exact takeWhile_cons_of_pos (decide_eq_true hb)

/-- The first command behind the delimiters in front of it. -/
theorem firstCommand_eq {text command : List UInt8} {others : List (List UInt8)}
    (h : tokens comma text = command :: others) :
    ∃ commas, (∀ b ∈ commas, b = comma) ∧ firstCommand text = commas ++ command := by
  induction text with
  | nil => cases h
  | cons b text ih =>
      by_cases hb : b = comma
      · subst hb
        rw [tokens_delimiter] at h
        obtain ⟨commas, hcommas, hfirst⟩ := ih h
        refine ⟨comma :: commas, forall_mem_cons.2 ⟨rfl, hcommas⟩, ?_⟩
        rw [firstCommand_comma, hfirst, cons_append]
      · obtain ⟨rest, hrest⟩ := @parts_head comma (b :: text) (cons_ne_nil b text)
        have htake : (b :: text).takeWhile (· ≠ comma) = b :: text.takeWhile (· ≠ comma) :=
          takeWhile_cons_of_pos (decide_eq_true hb)
        rw [htake] at hrest
        unfold tokens at h
        rw [hrest] at h
        refine ⟨[], fun _ hmem => absurd hmem not_mem_nil, ?_⟩
        rw [firstCommand_of_ne hb]
        exact (cons.inj h).1

theorem infix_commas_iff {pattern commas : List UInt8} (hpattern : comma ∉ pattern)
    (hne : pattern ≠ []) (hcommas : ∀ b ∈ commas, b = comma) (text : List UInt8) :
    pattern <:+: commas ++ text ↔ pattern <:+: text := by
  induction commas with
  | nil => exact Iff.rfl
  | cons b commas ih =>
      obtain ⟨hb, hrest⟩ := forall_mem_cons.1 hcommas
      rw [cons_append, infix_cons_iff, ih hrest]
      refine or_iff_right fun hprefix => ?_
      cases pattern with
      | nil => exact hne rfl
      | cons c pattern =>
          have hc : c = comma := (cons_prefix_cons.1 hprefix).1.trans hb
          exact hpattern (hc ▸ mem_cons_self)

theorem strlcpy_word (word : Word) :
    strlcpy MAX_ALLOWED_LINE_LEN word.chars (word.chars.length + 1) = some word.row := by
  obtain ⟨row, hrow⟩ := (strlcpy_isSome word.noTerminator).2 word.fits
  rw [hrow]
  exact congrArg some (CString.ext (strlcpy_token word.chars hrow))

/-- The commands that are served for a request: delimiters may be left in front. -/
def Request.ServedAs (request : Request) (command : List UInt8) : Prop :=
  ∃ commas, (∀ b ∈ commas, b = comma) ∧ command = commas ++ request.text

namespace Request

variable {request : Request} {command : List UInt8} {name value : Word} {list : List PropertyUnit}

theorem ServedAs.getProperty_iff (h : request.ServedAs command) :
    getProperty <:+: command ↔ getProperty <:+: request.text := by
  obtain ⟨commas, hcommas, rfl⟩ := h
  exact infix_commas_iff (by decide) (by decide) hcommas request.text

theorem ServedAs.setProperty_iff (h : request.ServedAs command) :
    setProperty <:+: command ↔ setProperty <:+: request.text := by
  obtain ⟨commas, hcommas, rfl⟩ := h
  exact infix_commas_iff (by decide) (by decide) hcommas request.text

theorem keyword_cases (request : Request) :
    request.keyword = getProperty ∨ request.keyword = setProperty := by
  cases request with
  | get name => exact .inl rfl
  | set name value => exact .inr rfl

theorem blank_notMem_keyword (request : Request) : blank ∉ request.keyword := by
  rcases request.keyword_cases with h | h <;> rw [h] <;> decide

theorem keyword_ne_nil (request : Request) : request.keyword ≠ [] := by
  rcases request.keyword_cases with h | h <;> rw [h] <;> decide

/-- The word in front may have delimiters before it; the others are those of the request. -/
theorem ServedAs.tokens_eq (h : request.ServedAs command) :
    ∃ first, tokens blank command = first :: tokens blank request.arguments.tail := by
  obtain ⟨commas, hcommas, rfl⟩ := h
  have hblank : blank ∉ commas ++ request.keyword := by
    intro hmem
    rcases mem_append.1 hmem with hmem | hmem
    · exact absurd (hcommas blank hmem) (by decide)
    · exact request.blank_notMem_keyword hmem
  have hne : commas ++ request.keyword ≠ [] := fun hnil =>
    request.keyword_ne_nil (append_eq_nil_iff.1 hnil).2
  refine ⟨commas ++ request.keyword, ?_⟩
  unfold text
  rw [← append_assoc]
  cases request with
  | get name => exact tokens_append hblank hne _
  | set name value => exact tokens_append hblank hne _

theorem ServedAs.getName (h : (get name).ServedAs command) : wordAt command 1 = name.row := by
  obtain ⟨first, hfirst⟩ := h.tokens_eq
  have hname : tokens blank (get name).arguments.tail = [name.chars] :=
    tokens_word name.noBlank name.nonempty
  unfold wordAt
  rw [hfirst, hname]
  change (strlcpy MAX_ALLOWED_LINE_LEN name.chars _).getD Row.empty = _
  rw [strlcpy_word]
  rfl

theorem ServedAs.setWords (h : (set name value).ServedAs command) :
    wordAt command 1 = name.row ∧ wordAt command 2 = value.row := by
  obtain ⟨first, hfirst⟩ := h.tokens_eq
  have hwords : tokens blank (set name value).arguments.tail = [name.chars, value.chars] := by
    change tokens blank (name.chars ++ blank :: value.chars) = _
    rw [tokens_append name.noBlank name.nonempty, tokens_word value.noBlank value.nonempty]
  unfold wordAt
  rw [hfirst, hwords]
  constructor
  · change (strlcpy MAX_ALLOWED_LINE_LEN name.chars _).getD Row.empty = _
    rw [strlcpy_word]
    rfl
  · change (strlcpy MAX_ALLOWED_LINE_LEN value.chars _).getD Row.empty = _
    rw [strlcpy_word]
    rfl

theorem ServedAs.isGet (h : (get name).ServedAs command) : getProperty <:+: command :=
  h.getProperty_iff.2 (prefix_append _ _).isInfix

theorem ServedAs.isSet (h : (set name value).ServedAs command) : setProperty <:+: command :=
  h.setProperty_iff.2 (prefix_append _ _).isInfix

end Request

/-! ## The text of the reply -/

/-- A text that is empty or ends with the delimiter. -/
def Closed (text : List UInt8) : Prop := text = [] ∨ ∃ front, text = front ++ [comma]

theorem Closed.drop {text : List UInt8} (h : Closed text) (n : Nat) : Closed (text.drop n) := by
  rcases h with rfl | ⟨front, rfl⟩
  · exact .inl drop_nil
  · by_cases hn : n ≤ front.length
    · exact .inr ⟨front.drop n, drop_append_of_le_length hn⟩
    · refine .inl (drop_eq_nil_of_le ?_)
      rw [length_append, length_singleton]
      omega

/-- Behind a `get` the text ends with the delimiter. -/
theorem nextText_closed {text : List UInt8} (h : Closed text) (found : Option Value) :
    ∃ front, nextText text found = front ++ [comma] := by
  cases found with
  | none => exact ⟨text, rfl⟩
  | some value =>
      unfold nextText
      dsimp only
      rcases h.drop (value.chars.length + 1) with hdrop | ⟨front, hdrop⟩
      · rw [hdrop]
        exact ⟨value.chars, rfl⟩
      · rw [hdrop]
        exact ⟨value.chars ++ comma :: front, by rw [append_assoc, cons_append]⟩

/-- The text is the value alone if there was no more text than the value covers. -/
theorem nextText_eq_iff {text value : List UInt8} (h : Closed text) (hvalue : comma ∉ value)
    (found : Option Value) : nextText text found = value ++ [comma] ↔
      found.elim [] CString.chars = value ∧ text.length ≤ covered found := by
  cases found with
  | none =>
      change text ++ [comma] = value ++ [comma] ↔ [] = value ∧ text.length ≤ 0
      rw [append_left_inj, Nat.le_zero, length_eq_zero_iff]
      constructor
      · rintro rfl
        rcases h with rfl | ⟨front, rfl⟩
        · exact ⟨rfl, rfl⟩
        · exact absurd (mem_append_right front mem_cons_self) hvalue
      · rintro ⟨rfl, rfl⟩
        rfl
  | some v =>
      change v.chars ++ comma :: text.drop (v.chars.length + 1) = value ++ [comma] ↔
        v.chars = value ∧ text.length ≤ v.chars.length + 1
      constructor
      · intro heq
        rcases h.drop (v.chars.length + 1) with hdrop | ⟨front, hdrop⟩
        · rw [hdrop, append_left_inj] at heq
          exact ⟨heq, drop_eq_nil_iff.1 hdrop⟩
        · -- the delimiter behind the value that is printed would be one of the value itself
          rw [hdrop, ← cons_append, ← append_assoc, append_left_inj] at heq
          rw [← heq] at hvalue
          exact absurd (mem_append_right _ mem_cons_self) hvalue
      · rintro ⟨rfl, hle⟩
        rw [drop_eq_nil_of_le hle]

/-- What is sent for a command, and what the client is to read: at least as many delimiters are
sent, and behind the last one there is nothing. -/
def Sent (sent reply : List UInt8) : Prop :=
  Closed sent ∧ (reply = [] ∨ sent ≠ [] ∧ ∃ value, comma ∉ value ∧ reply = value ++ [comma])

theorem Sent.count_le {sent reply : List UInt8} (h : Sent sent reply) :
    reply.count comma ≤ sent.count comma := by
  obtain ⟨hclosed, rfl | ⟨hne, value, hvalue, rfl⟩⟩ := h
  · exact Nat.zero_le _
  · obtain rfl | ⟨front, rfl⟩ := hclosed
    · exact absurd rfl hne
    · rw [count_append, count_append, count_eq_zero.2 hvalue, Nat.zero_add]
      exact Nat.le_add_left _ _

theorem count_flatten_le {sents replies : List (List UInt8)} (h : List.Forall₂ Sent sents replies) :
    replies.flatten.count comma ≤ sents.flatten.count comma := by
  induction h with
  | nil => exact le_refl _
  | cons hfirst hrest ih =>
      rw [flatten_cons, flatten_cons, count_append, count_append]
      exact Nat.add_le_add hfirst.count_le ih

/-- The bytes in the stream tell the replies apart. -/
theorem flatten_eq_iff {sents replies : List (List UInt8)} (h : List.Forall₂ Sent sents replies) :
    sents.flatten = replies.flatten ↔ sents = replies := by
  refine ⟨fun heq => ?_, congrArg flatten⟩
  induction h with
  | nil => rfl
  | @cons sent reply sents replies hfirst hrest ih =>
      rw [flatten_cons, flatten_cons] at heq
      have hcount := congrArg (count comma) heq
      rw [count_append, count_append] at hcount
      have hle := hfirst.count_le
      have hrests := count_flatten_le hrest
      -- no delimiter is sent in excess
      have hsame : sent.count comma = reply.count comma := by omega
      obtain ⟨rfl | ⟨front, rfl⟩, rfl | ⟨hne, value, hvalue, rfl⟩⟩ := hfirst
      · rw [ih heq]
      · exact absurd rfl hne
      · rw [count_append, count_nil] at hsame
        exact absurd (Nat.add_eq_zero_iff.1 hsame).2 (by decide)
      · have hfront : comma ∉ front := by
          rw [count_append, count_append, Nat.add_right_cancel_iff] at hsame
          rw [← count_eq_zero, hsame, count_eq_zero]
          exact hvalue
        rw [append_assoc, append_assoc] at heq
        have hfronts : front = value := by
          have hparts := congrArg (parts comma) heq
          rw [singleton_append, singleton_append, parts_append hfront,
            parts_append hvalue] at hparts
          exact (cons.inj hparts).1
        subst hfronts
        rw [ih (append_cancel_left (append_cancel_left heq))]

/-! ## The commands one after the other -/

/-- No value has a delimiter in it. -/
def Store.Unseparated (store : Store) : Prop :=
  ∀ name value, store name = some value → comma ∉ value.chars

theorem Store.Unseparated.value {store : Store} (h : store.Unseparated) (name : Name) :
    comma ∉ (store name).elim [] CString.chars := by
  cases hfound : store name with
  | none => exact not_mem_nil
  | some value => exact h name value hfound

theorem Store.Unseparated.afterRequest {store : Store} (h : store.Unseparated) (request : Request) :
    (store.afterRequest request).Unseparated := by
  cases request with
  | get name => exact h
  | set name value =>
      intro other v hv
      change update store name.row (some value.row) other = some v at hv
      by_cases hname : other = name.row
      · subst hname
        have hself : update store name.row (some value.row) name.row = some value.row :=
          update_self _ _ _
        obtain rfl := Option.some.inj (hself.symm.trans hv)
        exact value.noComma
      · rw [update_of_ne hname] at hv
        exact h other v hv

theorem covered_lt_iff {m : Nat} {found : Option Value} (h : m ≤ covered found) :
    nextLength m found < MAX_ALLOWED_LINE_LEN ↔ covered found < MAX_ALLOWED_LINE_LEN := by
  cases found with
  | none =>
      obtain rfl := Nat.le_zero.1 h
      exact iff_of_true (by decide) (by decide)
  | some value =>
      have hmax : max m (value.chars.length + 1) = value.chars.length + 1 := Nat.max_eq_right h
      unfold nextLength covered
      dsimp only
      rw [hmax]

namespace Request

variable {allocated : Bool} {list : List PropertyUnit} {m : Nat} {text command : List UInt8}
  {name value : Word}

/-- What a served `get` does. -/
theorem ServedAs.get_steps (h : (get name).ServedAs command) :
    lengthAfter list m command = nextLength m (getPropertyValueBt name.row list) ∧
      textAfter list text command = nextText text (getPropertyValueBt name.row list) ∧
        listAfter allocated list command = list ∧ Server.actionsFor command = [] := by
  unfold lengthAfter textAfter listAfter Server.actionsFor
  rw [if_pos h.isGet, if_pos h.isGet, if_pos h.isGet, if_pos h.isGet, h.getName]
  exact ⟨rfl, rfl, rfl, rfl⟩

/-- What a served `set` does, if it is not taken for a `get`. -/
theorem ServedAs.set_steps (h : (set name value).ServedAs command)
    (hget : ¬getProperty <:+: (set name value).text) :
    lengthAfter list m command = m ∧ textAfter list text command = text ∧
      listAfter allocated list command =
        (updatePropValue allocated name.row value.row list).1 ∧
        Server.actionsFor command =
          (actionsOf name.row value.row).map fun action => (action, name.row) := by
  have hcommand : ¬getProperty <:+: command := fun hmem => hget (h.getProperty_iff.1 hmem)
  unfold lengthAfter textAfter listAfter Server.actionsFor
  rw [if_neg hcommand, if_neg hcommand, if_neg hcommand, if_neg hcommand, if_pos h.isSet,
    if_pos h.isSet, h.setWords.1, h.setWords.2]
  exact ⟨rfl, rfl, rfl, rfl⟩

end Request

theorem textAfter_closed {list : List PropertyUnit} {text command : List UInt8} (h : Closed text) :
    Closed (textAfter list text command) := by
  unfold textAfter
  split
  · exact .inr (nextText_closed h _)
  · exact h

/-- What is sent and what the client is to read keep to each other in their delimiters. -/
theorem sends_sent {allocated : Nat → Bool} {i : Nat} {list : List PropertyUnit}
    {text : List UInt8} {store : Store} {requests : List Request} {commands : List (List UInt8)}
    (hserved : List.Forall₂ Request.ServedAs requests commands) (hclosed : Closed text)
    (hstore : store.Unseparated) :
    List.Forall₂ Sent (Server.sends allocated i list text commands) (replies store requests) := by
  induction hserved generalizing i list text store with
  | nil => exact List.Forall₂.nil
  | @cons request command requests commands hfirst hrest ih =>
      refine List.Forall₂.cons ⟨textAfter_closed hclosed, ?_⟩
        (ih (textAfter_closed hclosed) (hstore.afterRequest request))
      cases request with
      | get name =>
          refine .inr ⟨?_, _, hstore.value name.row, rfl⟩
          rw [(@Request.ServedAs.get_steps true list 0 text command name hfirst).2.1]
          obtain ⟨front, hfront⟩ := nextText_closed hclosed (getPropertyValueBt name.row list)
          rw [hfront]
          exact append_ne_nil_of_right_ne_nil front (cons_ne_nil _ _)
      | set name value => exact .inl rfl

/-- The replies fit and are what the client is to read, and the actions are those of their names,
if and only if the requests come in order. -/
theorem served_iff_inOrder {allocated : Nat → Bool} {i : Nat} {list : List PropertyUnit}
    {text : List UInt8} {store : Store} {requests : List Request} {commands : List (List UInt8)}
    (hserved : List.Forall₂ Request.ServedAs requests commands) (hclosed : Closed text)
    (hstore : store.Unseparated) :
    (RepliesFit allocated i text.length list commands ∧
      Server.sends allocated i list text commands = replies store requests ∧
        ∀ action ∈ commands.flatMap Server.actionsFor, action.2.chars = action.1.property) ↔
      InOrder allocated i text.length list store requests := by
  induction hserved generalizing i list text store with
  | nil =>
      refine iff_of_true ⟨trivial, rfl, ?_⟩ trivial
      exact fun _ hmem => absurd hmem not_mem_nil
  | @cons request command requests commands hfirst hrest ih =>
      unfold RepliesFit Server.sends replies
      rw [cons_eq_cons, flatMap_cons, forall_mem_append]
      cases request with
      | get name =>
          obtain ⟨hlength, htext, hlist, hactions⟩ :=
            @Request.ServedAs.get_steps (allocated i) list text.length text command name hfirst
          have hvalue := nextText_eq_iff hclosed (hstore.value name.row)
            (getPropertyValueBt name.row list)
          have hnext := @ih (i + 1) list (nextText text (getPropertyValueBt name.row list)) store
            (.inr (nextText_closed hclosed _)) hstore
          rw [length_nextText] at hnext
          rw [hlength, htext, hlist, hactions]
          unfold InOrder
          dsimp only
          rw [← hnext]
          change (_ ∧ _) ∧ (nextText text _ = _ ++ [comma] ∧ _) ∧ _ ↔ _
          rw [hvalue]
          constructor
          · rintro ⟨⟨hroom, hfits⟩, ⟨⟨hsame, hle⟩, hsends⟩, -, hactions⟩
            exact ⟨⟨hsame, hle, (covered_lt_iff hle).1 hroom⟩, hfits, hsends, hactions⟩
          · rintro ⟨⟨hsame, hle, hroom⟩, hfits, hsends, hactions⟩
            refine ⟨⟨(covered_lt_iff hle).2 hroom, hfits⟩, ⟨⟨hsame, hle⟩, hsends⟩, ?_, hactions⟩
            exact fun _ hmem => absurd hmem not_mem_nil
      | set name value =>
          by_cases hget : getProperty <:+: (Request.set name value).text
          · -- taken for a `get`, and something is sent
            refine iff_of_false ?_ fun h => h.1.2.1 hget
            rintro ⟨-, ⟨hnothing, -⟩, -⟩
            unfold textAfter at hnothing
            rw [if_pos (hfirst.getProperty_iff.2 hget)] at hnothing
            obtain ⟨front, hfront⟩ := nextText_closed hclosed
              (getPropertyValueBt (wordAt command 1) list)
            rw [hfront] at hnothing
            exact append_ne_nil_of_right_ne_nil front (cons_ne_nil _ _) hnothing
          · obtain ⟨hlength, htext, hlist, hactions⟩ := @Request.ServedAs.set_steps (allocated i)
              list text.length text command name value hfirst hget
            have hnext := @ih (i + 1) (updatePropValue (allocated i) name.row value.row list).1 text
              (store.afterRequest (.set name value)) hclosed (hstore.afterRequest _)
            rw [hlength, htext, hlist, hactions, forall_mem_map]
            unfold InOrder
            change _ ↔ _ ∧ InOrder _ _ _ _ (store.afterRequest (.set name value)) _
            rw [← hnext, length_eq_zero_iff]
            constructor
            · rintro ⟨⟨-, hfits⟩, ⟨hnothing, hsends⟩, howns, hactions⟩
              exact ⟨⟨hnothing, hget, howns⟩, hfits, hsends, hactions⟩
            · rintro ⟨⟨hnothing, -, howns⟩, hfits, hsends, hactions⟩
              refine ⟨⟨?_, hfits⟩, ⟨hnothing, hsends⟩, howns, hactions⟩
              rw [hnothing]
              decide

/-! ## Lists without delimiters -/

/-- No value in the list has a delimiter in it. -/
def Unseparated (list : List PropertyUnit) : Prop := ∀ u ∈ list, comma ∉ u.propertyValue.chars

/-! ## The message -/

/-- The commands that are served are those of the requests. -/
theorem commandsOf_served {text : List UInt8} {requests : List Request}
    (h : tokens comma text = requests.map Request.text) :
    List.Forall₂ Request.ServedAs requests (commandsOf text) := by
  unfold commandsOf
  by_cases hsingle : (tokens comma text).length = 1
  · rw [if_pos hsingle]
    rw [h, length_map, length_eq_one_iff] at hsingle
    obtain ⟨request, rfl⟩ := hsingle
    exact List.Forall₂.cons (firstCommand_eq h) List.Forall₂.nil
  · rw [if_neg hsingle, h, forall₂_map_right_iff, forall₂_same]
    intro request _
    exact ⟨[], fun _ hmem => absurd hmem not_mem_nil, rfl⟩

/-- The values of a list without delimiters. -/
theorem lookup_unseparated {list : List PropertyUnit} (h : Unseparated list) :
    Store.Unseparated fun name => lookup name list := by
  intro name value hfound
  obtain ⟨u, hu, rfl⟩ := Option.map_eq_some_iff.1 hfound
  exact h u (mem_of_find?_eq_some hu)

/-- The messages whose replies are, one after the other, the values asked for. -/
theorem replies_answered_iff (allocated : Nat → Bool) (list : List PropertyUnit)
    (received : List UInt8) (requests : List Request)
    (hlist : Unseparated list)
    (hreceived : tokens comma (receivedText received) = requests.map Request.text) :
    Answered allocated list received requests ↔ Orderly allocated list received requests := by
  have hserved := commandsOf_served hreceived
  have hclosed : Closed [] := Or.inl rfl
  have hstore := lookup_unseparated hlist
  have hzero := zero_notMem_commandsOf (zero_notMem_receivedText received)
  have horder := @served_iff_inOrder allocated 0 list [] _ _ _ hserved hclosed hstore
  have hsent := flatten_eq_iff (@sends_sent allocated 0 list [] _ _ _ hserved hclosed hstore)
  constructor
  · rintro ⟨s, hs, hflatten, hactions⟩
    obtain ⟨hterminated, ⟨hrows, hshort⟩, hserve⟩ := handleReceived_eq_ok.1 hs
    obtain ⟨hwords, hfits⟩ := (Server.serve_isOk Reply.cleared_shows
      (by decide) hzero).1 ⟨s, hserve⟩
    obtain ⟨hsends, hdone⟩ := Server.serve_result Reply.cleared_shows (by decide) hzero hserve
    rw [nil_append] at hsends hdone
    rw [hsends] at hflatten
    rw [hdone] at hactions
    rw [hreceived, length_map] at hrows
    rw [hreceived, forall_mem_map] at hshort
    exact ⟨hterminated, hrows, hshort, hwords,
      horder.1 ⟨hfits, hsent.1 hflatten, hactions⟩⟩
  · intro h
    obtain ⟨hfits, hsends, hactions⟩ := horder.2 h.order
    obtain ⟨s, hserve⟩ := (@Server.serve_isOk ⟨list, .cleared, [], []⟩ [] allocated 0 _
      Reply.cleared_shows (by decide) hzero).2 ⟨h.words, hfits⟩
    obtain ⟨hsent', hdone⟩ := Server.serve_result Reply.cleared_shows (by decide) hzero hserve
    rw [nil_append] at hsent' hdone
    refine ⟨s, handleReceived_eq_ok.2 ⟨h.terminated, ?_, hserve⟩, ?_, ?_⟩
    · rw [hreceived, length_map, forall_mem_map]
      exact ⟨h.rows, h.short⟩
    · rw [hsent']
      exact hsent.2 hsends
    · rw [hdone]
      exact hactions

/-- The words `bt` and `on`. -/
def btWord : Word :=
  ⟨ascii ['b', 't'], by decide, by decide, by decide, by decide, by decide⟩

def onWord : Word :=
  ⟨ascii ['o', 'n'], by decide, by decide, by decide, by decide, by decide⟩

/-- A property that is set and asked for in one message. -/
theorem setThenGet_answered : Answered (fun _ => true) []
    ((Request.set btWord onWord).text ++ comma :: (Request.get btWord).text)
    [.set btWord onWord, .get btWord] := by
  refine (replies_answered_iff (fun _ => true) [] _ _ (fun _ hmem => absurd hmem not_mem_nil)
    (by decide)).2 ⟨.inl (by decide), by decide, by decide, ?_, ?_⟩
  · have hcommands : commandsOf (receivedText ((Request.set btWord onWord).text ++ comma ::
        (Request.get btWord).text)) = [(Request.set btWord onWord).text,
        (Request.get btWord).text] := by
      decide
    rw [hcommands, forall_mem_cons, forall_mem_singleton]
    exact ⟨fun _ => ⟨by decide, by decide⟩, fun _ => ⟨by decide, by decide⟩⟩
  · exact ⟨⟨rfl, by decide, by decide⟩, ⟨by decide, by decide, by decide⟩, trivial⟩

/-- `get_property bt,set_property on bt`, when `bt` is `on`: the value is sent once more for the
`set`. -/
theorem value_sent_twice : ¬∀ allocated (list : List PropertyUnit) received requests,
    Unseparated list →
    tokens comma (receivedText received) = requests.map Request.text →
    Answered allocated list received requests := by
  intro h
  have hlist : Unseparated [⟨btWord.row, onWord.row⟩] :=
    forall_mem_singleton.2 onWord.noComma
  obtain ⟨s, hs, hsent, -⟩ := h (fun _ => true) [⟨btWord.row, onWord.row⟩]
    ((Request.get btWord).text ++ comma :: (Request.set onWord btWord).text)
    [.get btWord, .set onWord btWord] hlist (by decide)
  obtain ⟨-, -, hserve⟩ := handleReceived_eq_ok.1 hs
  obtain ⟨hsends, -⟩ := Server.serve_result Reply.cleared_shows (by decide) (by decide) hserve
  rw [hsends] at hsent
  exact absurd hsent (by decide)

end Property
