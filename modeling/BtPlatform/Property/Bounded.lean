import BtPlatform.Property.Serve

/-!
# The arrays of the property server

Which messages of clients are handled inside the arrays: the tables have room for the commands
and their words, and the reply, which only grows while a message is handled, keeps its
terminator.
-/

namespace Property

open Support List

/-! ## What a command does -/

/-- The row that the word is copied to; without the word it is empty. -/
def wordAt (command : List UInt8) (i : Nat) : Row :=
  ((tokens blank command)[i]?.bind fun word =>
    strlcpy MAX_ALLOWED_LINE_LEN word (word.length + 1)).getD Row.empty

/-- The length of the reply behind a `get`: a value is printed over the front of the text. -/
def nextLength (m : Nat) : Option Value → Nat
  | some value => max m (value.chars.length + 1)
  | none => m + 1

/-- The length of the reply behind the command. -/
def lengthAfter (list : List PropertyUnit) (m : Nat) (command : List UInt8) : Nat :=
  if getProperty <:+: command then nextLength m (getPropertyValueBt (wordAt command 1) list) else m

def listAfter (allocated : Bool) (list : List PropertyUnit) (command : List UInt8) :
    List PropertyUnit :=
  if getProperty <:+: command then list
  else if setProperty <:+: command then
    (updatePropValue allocated (wordAt command 1) (wordAt command 2) list).1
  else list

/-! ## The condition -/

/-- A command that is executed has no more words than there are rows, and none that is too
long. -/
def WordsFit (command : List UInt8) : Prop :=
  getProperty <:+: command ∨ setProperty <:+: command →
    (tokens blank command).length ≤ MAX_PROPERTY_ITER ∧
      ∀ word ∈ tokens blank command, word.length < MAX_ALLOWED_LINE_LEN

/-- The reply has room for its terminator behind each command, if it has this length now. -/
def RepliesFit (allocated : Nat → Bool) : Nat → Nat → List PropertyUnit → List (List UInt8) → Prop
  | _, _, _, [] => True
  | i, m, list, command :: commands =>
      lengthAfter list m command < MAX_ALLOWED_LINE_LEN ∧
        RepliesFit allocated (i + 1) (lengthAfter list m command)
          (listAfter (allocated i) list command) commands

/-- The text that is received. -/
def receivedText (received : List UInt8) : List UInt8 := received.takeWhile (· ≠ 0)

/-- The message is handled inside the arrays. -/
structure InBounds (allocated : Nat → Bool) (list : List PropertyUnit) (received : List UInt8) :
    Prop where
  terminated : received.length < 1024 ∨ 0 ∈ received
  rows : (tokens comma (receivedText received)).length ≤ MAX_ALLOWED_LINE_LEN
  short : ∀ command ∈ tokens comma (receivedText received), command.length < MAX_ALLOWED_LINE_LEN
  words : ∀ command ∈ commandsOf (receivedText received), WordsFit command
  replies : RepliesFit allocated 0 0 list (commandsOf (receivedText received))

/-! ## Tokens -/

theorem mem_of_mem_tokens {delimiter b : UInt8} {text token : List UInt8}
    (htoken : token ∈ tokens delimiter text) (hb : b ∈ token) : b ∈ text := by
  have hparts : ∀ part ∈ parts delimiter text, ∀ b ∈ part, b ∈ text := by
    clear htoken hb
    induction text with
    | nil => exact fun _ hmem => absurd hmem not_mem_nil
    | cons c text ih =>
        unfold parts
        split
        · intro part hpart b hb
          rcases mem_cons.1 hpart with rfl | hpart
          · cases hb
          · exact mem_cons_of_mem c (ih part hpart b hb)
        · intro part hpart b hb
          split at hpart
          · obtain rfl := mem_singleton.1 hpart
            obtain rfl := mem_singleton.1 hb
            exact mem_cons_self
          · next first others hrest =>
            rw [hrest] at ih
            rcases mem_cons.1 hpart with rfl | hpart
            · rcases mem_cons.1 hb with rfl | hb
              · exact mem_cons_self
              · exact mem_cons_of_mem c (ih first mem_cons_self b hb)
            · exact mem_cons_of_mem c
                (ih part (mem_cons_of_mem first hpart) b hb)
  exact hparts token (mem_of_mem_filter htoken) b hb

theorem strlcpy_token (token : List UInt8) {row : Row}
    (h : strlcpy MAX_ALLOWED_LINE_LEN token (token.length + 1) = some row) : row.chars = token := by
  unfold strlcpy at h
  split at h
  · rw [← Option.some.inj h]
    exact take_length
  · cases h

theorem strlcpy_isSome {token : List UInt8} (hzero : 0 ∉ token) :
    (∃ row, strlcpy MAX_ALLOWED_LINE_LEN token (token.length + 1) = some row) ↔
      token.length < MAX_ALLOWED_LINE_LEN := by
  have htake : token.take (token.length + 1 - 1) = token := take_length
  unfold strlcpy
  split
  · next h => exact iff_of_true ⟨_, rfl⟩ (htake ▸ h.2)
  · next h =>
    refine iff_of_false ?_ fun hlt => h ⟨htake.symm ▸ hzero, htake.symm ▸ hlt⟩
    rintro ⟨row, hrow⟩
    cases hrow

theorem copyTokens_isOk {rows : Nat} {toks : List (List UInt8)} (hzero : ∀ t ∈ toks, 0 ∉ t) :
    (∃ copied, copyTokens rows toks = .ok copied) ↔
      toks.length ≤ rows ∧ ∀ t ∈ toks, t.length < MAX_ALLOWED_LINE_LEN := by
  induction toks generalizing rows with
  | nil =>
      refine iff_of_true ⟨[], ?_⟩ ⟨Nat.zero_le rows, fun _ hmem => absurd hmem not_mem_nil⟩
      cases rows with
      | zero => rfl
      | succ rows => rfl
  | cons token toks ih =>
      have htoken := strlcpy_isSome (hzero token mem_cons_self)
      have hrest := @ih
      cases rows with
      | zero =>
          refine iff_of_false ?_ fun h => absurd h.1 (Nat.not_succ_le_zero _)
          rintro ⟨copied, h⟩
          cases h
      | succ rows =>
          have hrest := @ih rows fun t hmem => hzero t (mem_cons_of_mem token hmem)
          unfold copyTokens
          rw [length_cons, Nat.succ_le_succ_iff, forall_mem_cons, and_left_comm, ← hrest,
            ← htoken]
          cases hcopy : strlcpy MAX_ALLOWED_LINE_LEN token (token.length + 1) with
          | none =>
              refine iff_of_false ?_ ?_
              · rintro ⟨copied, h⟩
                cases h
              · rintro ⟨⟨row, h⟩, -⟩
                cases h
          | some row =>
              dsimp only
              cases hcopied : copyTokens rows toks with
              | error e =>
                  refine iff_of_false ?_ ?_
                  · rintro ⟨copied, h⟩
                    cases h
                  · rintro ⟨-, copied, h⟩
                    cases h
              | ok copied => exact iff_of_true ⟨_, rfl⟩ ⟨⟨row, rfl⟩, copied, rfl⟩

/-- The rows of the words. -/
theorem getD_copyTokens {rows : Nat} {toks : List (List UInt8)} {copied : List Row}
    (h : copyTokens rows toks = .ok copied) (i : Nat) :
    copied.getD i Row.empty = (toks[i]?.bind fun token =>
      strlcpy MAX_ALLOWED_LINE_LEN token (token.length + 1)).getD Row.empty := by
  induction toks generalizing rows copied i with
  | nil =>
      have hcopied : copied = [] := by
        cases rows with
        | zero => exact (Except.ok.inj h).symm
        | succ rows => exact (Except.ok.inj h).symm
      rw [hcopied]
      rfl
  | cons token toks ih =>
      cases rows with
      | zero => cases h
      | succ rows =>
          unfold copyTokens at h
          cases hcopy : strlcpy MAX_ALLOWED_LINE_LEN token (token.length + 1) with
          | none =>
              rw [hcopy] at h
              cases h
          | some row =>
              rw [hcopy] at h
              cases hrest : copyTokens rows toks with
              | error e =>
                  rw [hrest] at h
                  cases h
              | ok others =>
                  rw [hrest] at h
                  obtain rfl := Except.ok.inj h
                  cases i with
                  | zero =>
                      rw [getElem?_cons_zero, Option.bind_some, hcopy]
                      rfl
                  | succ i =>
                      rw [getElem?_cons_succ]
                      exact ih hrest i

/-! ## The reply -/

/-- The text of the reply behind a `get`. -/
def nextText (text : List UInt8) : Option Value → List UInt8
  | some value => value.chars ++ comma :: text.drop (value.chars.length + 1)
  | none => text ++ [comma]

def textAfter (list : List PropertyUnit) (text command : List UInt8) : List UInt8 :=
  if getProperty <:+: command then nextText text (getPropertyValueBt (wordAt command 1) list)
  else text

theorem length_nextText (text : List UInt8) (found : Option Value) :
    (nextText text found).length = nextLength text.length found := by
  cases found with
  | none => exact length_append
  | some value =>
      unfold nextText nextLength
      dsimp only
      rw [length_append, length_cons, length_drop]
      omega

theorem length_textAfter (list : List PropertyUnit) (text command : List UInt8) :
    (textAfter list text command).length = lengthAfter list text.length command := by
  unfold textAfter lengthAfter
  split
  · exact length_nextText text _
  · rfl

namespace Reply

/-- The buffer holds the text, and is cleared behind it. -/
structure Shows (reply : Reply) (text : List UInt8) : Prop where
  noTerminator : 0 ∉ text
  bytes : reply.bytes = text ++ replicate (80 - text.length) 0

variable {reply : Reply} {text : List UInt8}

theorem cleared_shows : cleared.Shows [] := ⟨not_mem_nil, rfl⟩

theorem Shows.terminated (h : reply.Shows text) (hroom : text.length < MAX_ALLOWED_LINE_LEN) :
    ∃ rest, reply.bytes = text ++ 0 :: rest := by
  obtain ⟨n, hn⟩ := Nat.exists_eq_add_of_lt (show text.length < 80 from hroom)
  refine ⟨replicate n 0, ?_⟩
  rw [h.bytes, show 80 - text.length = n + 1 by omega, replicate_succ]

theorem Shows.cText_eq (h : reply.Shows text) (hroom : text.length < MAX_ALLOWED_LINE_LEN) :
    cText reply.bytes = some text := by
  obtain ⟨rest, hbytes⟩ := h.terminated hroom
  rw [hbytes, cText_append h.noTerminator]

theorem Shows.cText_full (h : reply.Shows text) (hfull : ¬text.length < MAX_ALLOWED_LINE_LEN) :
    cText reply.bytes = none := by
  have hle : 80 ≤ text.length := Nat.le_of_not_lt hfull
  rw [h.bytes, Nat.sub_eq_zero_of_le hle, replicate_zero, append_nil]
  exact cText_of_notMem h.noTerminator

/-- The comma goes over the terminator. -/
theorem appendComma_eq {front rest : List UInt8} (hfront : 0 ∉ front)
    (hbytes : reply.bytes = front ++ 0 :: rest) :
    ∃ reply', reply.appendComma = .ok reply' ∧ reply'.bytes = front ++ comma :: rest := by
  have hset : reply.bytes.set front.length comma = front ++ comma :: rest := by
    rw [hbytes, set_append_right _ _ (le_refl _), Nat.sub_self, set_cons_zero]
  have hlength : strlen reply.bytes = some front.length := by
    rw [hbytes, strlen_append hfront]
  unfold appendComma
  rw [hlength]
  exact ⟨_, rfl, hset⟩

theorem Shows.missing (h : reply.Shows text) (hroom : text.length < MAX_ALLOWED_LINE_LEN) :
    ∃ reply', reply.appendComma = .ok reply' ∧ reply'.Shows (nextText text none) := by
  have hlt : text.length < 80 := hroom
  have hbytes : reply.bytes = text ++ 0 :: replicate (79 - text.length) 0 := by
    rw [h.bytes, ← replicate_succ]
    congr 2
    omega
  obtain ⟨reply', happend, hreply⟩ := appendComma_eq h.noTerminator hbytes
  refine ⟨reply', happend, ?_, ?_⟩
  · exact fun hmem => (mem_append.1 hmem).elim h.noTerminator (by decide)
  · unfold nextText
    dsimp only
    rw [hreply, length_append, length_singleton, append_assoc, Nat.sub_add_eq]
    congr 3
    omega

theorem Shows.found (h : reply.Shows text) (value : Value) :
    ∃ reply', (reply.print value).appendComma = .ok reply' ∧
      reply'.Shows (nextText text (some value)) := by
  have hbytes : (reply.print value).bytes =
      value.chars ++ 0 :: reply.bytes.drop (value.chars.length + 1) := rfl
  obtain ⟨reply', happend, hreply⟩ := appendComma_eq value.noTerminator hbytes
  refine ⟨reply', happend, ?_, ?_⟩
  · intro hmem
    rcases mem_append.1 hmem with hmem | hmem
    · exact value.noTerminator hmem
    · rcases mem_cons.1 hmem with hmem | hmem
      · cases hmem
      · exact h.noTerminator (mem_of_mem_drop hmem)
  · rw [hreply, h.bytes, drop_append, drop_replicate, length_nextText]
    unfold nextText nextLength
    dsimp only
    rw [append_assoc, cons_append]
    congr 4
    omega

end Reply

/-! ## Serving -/

namespace Server

/-- The actions for the command, each with the name in the command. -/
def actionsFor (command : List UInt8) : List (Action × Row) :=
  if getProperty <:+: command then []
  else if setProperty <:+: command then
    (actionsOf (wordAt command 1) (wordAt command 2)).map fun action => (action, wordAt command 1)
  else []

variable {s s' : Server} {allocated : Bool} {text command : List UInt8}

theorem send_of_shows (h : s.reply.Shows text) (hroom : text.length < MAX_ALLOWED_LINE_LEN) :
    s.send = .ok { s with sent := s.sent ++ [text] } := by
  unfold send
  rw [h.cText_eq hroom]

theorem send_full (h : s.reply.Shows text) (hfull : ¬text.length < MAX_ALLOWED_LINE_LEN) :
    s.send = .error .read := by
  unfold send
  rw [h.cText_full hfull]

/-- A `get` leaves everything but the reply as it is. -/
theorem execGet_eq (h : s.reply.Shows text) (hroom : text.length < MAX_ALLOWED_LINE_LEN)
    (parsedData : List Row) : ∃ reply, s.execGet parsedData = .ok { s with reply := reply } ∧
      reply.Shows (nextText text (getPropertyValueBt (parsedData.getD 1 Row.empty) s.list)) := by
  unfold execGet
  dsimp only
  cases getPropertyValueBt (parsedData.getD 1 Row.empty) s.list with
  | none =>
      obtain ⟨reply, happend, hshows⟩ := h.missing hroom
      dsimp only
      rw [happend]
      exact ⟨reply, rfl, hshows⟩
  | some value =>
      obtain ⟨reply, happend, hshows⟩ := h.found value
      dsimp only
      rw [happend]
      exact ⟨reply, rfl, hshows⟩

theorem zero_notMem_words (hzero : 0 ∉ command) : ∀ word ∈ tokens blank command, 0 ∉ word :=
  fun _ hword hmem => hzero (mem_of_mem_tokens hword hmem)

/-- A command whose words and reply fit is executed, and the reply is sent. -/
theorem step_of_fits (h : s.reply.Shows text) (hroom : text.length < MAX_ALLOWED_LINE_LEN)
    (hzero : 0 ∉ command) (hwords : WordsFit command)
    (hnext : lengthAfter s.list text.length command < MAX_ALLOWED_LINE_LEN) :
    ∃ reply, reply.Shows (textAfter s.list text command) ∧
      (s.issuePropertyCommand allocated command >>= send) = .ok
        ⟨listAfter allocated s.list command, reply, s.sent ++ [textAfter s.list text command],
          s.actions ++ actionsFor command⟩ := by
  have hcopy := @copyTokens_isOk MAX_PROPERTY_ITER _ (zero_notMem_words hzero)
  rw [← length_textAfter] at hnext
  unfold issuePropertyCommand textAfter listAfter actionsFor at *
  by_cases hget : getProperty <:+: command
  · obtain ⟨copied, hcopied⟩ := hcopy.2 (hwords (.inl hget))
    have hrow : copied.getD 1 Row.empty = wordAt command 1 := getD_copyTokens hcopied 1
    obtain ⟨reply, hexec, hshows⟩ := execGet_eq h hroom copied
    rw [hrow] at hshows
    simp only [if_pos hget] at hnext ⊢
    refine ⟨reply, hshows, ?_⟩
    rw [hcopied]
    change (s.execGet copied >>= send) = _
    rw [hexec, append_nil]
    exact send_of_shows hshows hnext
  · simp only [if_neg hget] at hnext ⊢
    refine ⟨s.reply, h, ?_⟩
    by_cases hset : setProperty <:+: command
    · obtain ⟨copied, hcopied⟩ := hcopy.2 (hwords (.inr hset))
      have hname : copied.getD 1 Row.empty = wordAt command 1 := getD_copyTokens hcopied 1
      have hvalue : copied.getD 2 Row.empty = wordAt command 2 := getD_copyTokens hcopied 2
      simp only [if_pos hset]
      rw [hcopied]
      change (s.execSet allocated copied).send = _
      unfold execSet
      rw [hname, hvalue]
      exact send_of_shows h hroom
    · simp only [if_neg hset]
      rw [append_nil]
      exact send_of_shows h hroom

theorem fits_of_step (h : s.reply.Shows text) (hroom : text.length < MAX_ALLOWED_LINE_LEN)
    (hzero : 0 ∉ command)
    (hstep : (s.issuePropertyCommand allocated command >>= send) = .ok s') :
    WordsFit command ∧ lengthAfter s.list text.length command < MAX_ALLOWED_LINE_LEN := by
  have hcopy := @copyTokens_isOk MAX_PROPERTY_ITER _ (zero_notMem_words hzero)
  obtain ⟨issued, hissue, hsend⟩ := bind_eq_ok.1 hstep
  rw [← length_textAfter]
  unfold issuePropertyCommand at hissue
  unfold textAfter
  by_cases hget : getProperty <:+: command
  · rw [if_pos hget] at hissue ⊢
    obtain ⟨copied, hcopied, hexec⟩ := bind_eq_ok.1 hissue
    refine ⟨fun _ => hcopy.1 ⟨copied, hcopied⟩, ?_⟩
    have hrow : copied.getD 1 Row.empty = wordAt command 1 := getD_copyTokens hcopied 1
    obtain ⟨reply, hexec', hshows⟩ := execGet_eq h hroom copied
    obtain rfl := Except.ok.inj (hexec'.symm.trans hexec)
    by_contra hfull
    rw [hrow] at hshows
    rw [send_full hshows hfull] at hsend
    cases hsend
  · rw [if_neg hget] at hissue ⊢
    refine ⟨?_, hroom⟩
    rintro (hget' | hset)
    · exact absurd hget' hget
    · rw [if_pos hset] at hissue
      cases hcopied : copyTokens MAX_PROPERTY_ITER (tokens blank command) with
      | error e =>
          rw [hcopied] at hissue
          cases hissue
      | ok copied => exact hcopy.1 ⟨copied, hcopied⟩

section Run

variable {allocated : Nat → Bool} {i : Nat} {commands : List (List UInt8)}

theorem serve_cons (i : Nat) (commands : List (List UInt8)) (s : Server) :
    serve allocated i (command :: commands) s =
      (s.issuePropertyCommand (allocated i) command >>= send) >>=
        serve allocated (i + 1) commands :=
  (bind_assoc _ _ _).symm

/-- A command that fits is executed, and the others are served behind it. -/
theorem serve_of_fits (h : s.reply.Shows text) (hroom : text.length < MAX_ALLOWED_LINE_LEN)
    (hzero : 0 ∉ command) (hwords : WordsFit command)
    (hnext : (textAfter s.list text command).length < MAX_ALLOWED_LINE_LEN) :
    ∃ reply, reply.Shows (textAfter s.list text command) ∧
      serve allocated i (command :: commands) s =
        serve allocated (i + 1) commands ⟨listAfter (allocated i) s.list command, reply,
          s.sent ++ [textAfter s.list text command], s.actions ++ actionsFor command⟩ := by
  rw [length_textAfter] at hnext
  obtain ⟨reply, hshows, hstep⟩ := @step_of_fits s (allocated i) text command h hroom hzero
    hwords hnext
  refine ⟨reply, hshows, ?_⟩
  rw [serve_cons, hstep]
  rfl

theorem fits_of_serve (h : s.reply.Shows text) (hroom : text.length < MAX_ALLOWED_LINE_LEN)
    (hzero : 0 ∉ command) (hserve : serve allocated i (command :: commands) s = .ok s') :
    WordsFit command ∧ (textAfter s.list text command).length < MAX_ALLOWED_LINE_LEN := by
  rw [serve_cons] at hserve
  obtain ⟨next, hstep, -⟩ := bind_eq_ok.1 hserve
  rw [length_textAfter]
  exact fits_of_step h hroom hzero hstep

/-- What is sent for each command. -/
def sends (allocated : Nat → Bool) :
    Nat → List PropertyUnit → List UInt8 → List (List UInt8) → List (List UInt8)
  | _, _, _, [] => []
  | i, list, text, command :: commands =>
      textAfter list text command :: sends allocated (i + 1) (listAfter (allocated i) list command)
        (textAfter list text command) commands

/-- The commands are served if and only if they fit. -/
theorem serve_isOk (h : s.reply.Shows text) (hroom : text.length < MAX_ALLOWED_LINE_LEN)
    (hzero : ∀ command ∈ commands, 0 ∉ command) :
    (∃ s', serve allocated i commands s = .ok s') ↔
      (∀ command ∈ commands, WordsFit command) ∧
        RepliesFit allocated i text.length s.list commands := by
  induction commands generalizing i s text with
  | nil =>
      exact iff_of_true ⟨s, rfl⟩ ⟨fun _ hmem => absurd hmem not_mem_nil, trivial⟩
  | cons command commands ih =>
      obtain ⟨hcommand, hrest⟩ := forall_mem_cons.1 hzero
      rw [forall_mem_cons]
      unfold RepliesFit
      rw [← length_textAfter]
      constructor
      · rintro ⟨s', hserve⟩
        obtain ⟨hwords, hnext⟩ := fits_of_serve h hroom hcommand hserve
        obtain ⟨reply, hshows, heq⟩ := serve_of_fits h hroom hcommand hwords hnext
        obtain ⟨hwords', hreplies⟩ := (ih hshows hnext hrest).1 ⟨s', heq.symm.trans hserve⟩
        exact ⟨⟨hwords, hwords'⟩, hnext, hreplies⟩
      · rintro ⟨⟨hwords, hwords'⟩, hnext, hreplies⟩
        obtain ⟨reply, hshows, heq⟩ := serve_of_fits h hroom hcommand hwords hnext
        rw [heq]
        exact (ih hshows hnext hrest).2 ⟨hwords', hreplies⟩

/-- What has been sent and done behind the commands. -/
theorem serve_result (h : s.reply.Shows text) (hroom : text.length < MAX_ALLOWED_LINE_LEN)
    (hzero : ∀ command ∈ commands, 0 ∉ command)
    (hserve : serve allocated i commands s = .ok s') :
    s'.sent = s.sent ++ sends allocated i s.list text commands ∧
      s'.actions = s.actions ++ commands.flatMap actionsFor := by
  induction commands generalizing i s text with
  | nil =>
      obtain rfl := Except.ok.inj hserve
      exact ⟨(append_nil _).symm, (append_nil _).symm⟩
  | cons command commands ih =>
      obtain ⟨hcommand, hrest⟩ := forall_mem_cons.1 hzero
      obtain ⟨hwords, hnext⟩ := fits_of_serve h hroom hcommand hserve
      obtain ⟨reply, hshows, heq⟩ := serve_of_fits h hroom hcommand hwords hnext
      obtain ⟨hsent, hactions⟩ := ih hshows hnext hrest (heq.symm.trans hserve)
      refine ⟨?_, ?_⟩
      · rw [hsent, append_assoc]
        rfl
      · rw [hactions, flatMap_cons, append_assoc]

end Run

end Server

/-! ## The message -/

theorem takeWhile_terminated {front : List UInt8} (hfront : 0 ∉ front) (rest : List UInt8) :
    (front ++ 0 :: rest).takeWhile (· ≠ 0) = front := by
  have hpos : ∀ b ∈ front, decide (b ≠ 0) = true := fun b hb =>
    decide_eq_true fun h => hfront (h ▸ hb)
  rw [takeWhile_append_of_pos hpos, takeWhile_cons_of_neg (by decide), append_nil]

/-- The buffer has a terminator, if the message does not fill it or brings one. -/
theorem cText_recvBuffer (received : List UInt8) : cText (recvBuffer received) =
    if received.length < 1024 ∨ 0 ∈ received then some (receivedText received) else none := by
  unfold recvBuffer receivedText
  by_cases hzero : 0 ∈ received
  · obtain ⟨front, rest, rfl, hfront⟩ := eq_append_cons_of_mem hzero
    rw [if_pos (.inr hzero), takeWhile_terminated hfront, append_assoc, cons_append]
    exact cText_append hfront _
  · have hall : received.takeWhile (· ≠ 0) = received :=
      takeWhile_eq_self_iff.2 fun b hb => decide_eq_true fun h : b = 0 => hzero (h ▸ hb)
    rw [hall]
    by_cases hlt : received.length < 1024
    · obtain ⟨n, hn⟩ := Nat.exists_eq_add_of_lt hlt
      rw [if_pos (.inl hlt), show 1024 - received.length = n + 1 by omega, replicate_succ]
      exact cText_append hzero _
    · rw [if_neg (not_or.2 ⟨hlt, hzero⟩), Nat.sub_eq_zero_of_le (Nat.le_of_not_lt hlt),
        replicate_zero, append_nil]
      exact cText_of_notMem hzero

theorem zero_notMem_receivedText (received : List UInt8) : 0 ∉ receivedText received := by
  intro hmem
  simpa using mem_takeWhile_imp hmem

theorem zero_notMem_commandsOf {text : List UInt8} (hzero : 0 ∉ text) :
    ∀ command ∈ commandsOf text, 0 ∉ command := by
  intro command hmem hcommand
  unfold commandsOf at hmem
  split at hmem
  · obtain rfl := mem_singleton.1 hmem
    rcases mem_append.1 hcommand with h | h
    · exact hzero ((takeWhile_sublist _).subset h)
    · exact hzero ((dropWhile_sublist _).subset ((takeWhile_sublist _).subset h))
  · exact hzero (mem_of_mem_tokens hmem hcommand)

/-- A message is handled if the commands are separated and served. -/
theorem handleReceived_eq_ok {allocated : Nat → Bool} {list : List PropertyUnit}
    {received : List UInt8} {s : Server} : handleReceived allocated list received = .ok s ↔
      (received.length < 1024 ∨ 0 ∈ received) ∧
        ((tokens comma (receivedText received)).length ≤ MAX_ALLOWED_LINE_LEN ∧
          ∀ command ∈ tokens comma (receivedText received),
            command.length < MAX_ALLOWED_LINE_LEN) ∧
        Server.serve allocated 0 (commandsOf (receivedText received)) ⟨list, .cleared, [], []⟩ =
          .ok s := by
  have htokens : ∀ t ∈ tokens comma (receivedText received), 0 ∉ t := fun _ ht hmem =>
    zero_notMem_receivedText received (mem_of_mem_tokens ht hmem)
  unfold handleReceived
  rw [cText_recvBuffer, ← copyTokens_isOk htokens]
  by_cases hterminated : received.length < 1024 ∨ 0 ∈ received
  · rw [if_pos hterminated, and_iff_right hterminated]
    dsimp only
    rw [bind_eq_ok]
    exact exists_and_right
  · rw [if_neg hterminated]
    refine iff_of_false (fun h => ?_) fun h => hterminated h.1
    cases h

/-- Which messages are handled inside the arrays. -/
theorem handleReceived_inBounds_iff (allocated : Nat → Bool) (list : List PropertyUnit)
    (received : List UInt8) :
    (∃ s, handleReceived allocated list received = .ok s) ↔ InBounds allocated list received := by
  have hserve := @Server.serve_isOk ⟨list, .cleared, [], []⟩ [] allocated 0
    (commandsOf (receivedText received)) Reply.cleared_shows (by decide)
    (zero_notMem_commandsOf (zero_notMem_receivedText received))
  constructor
  · rintro ⟨s, hs⟩
    obtain ⟨hterminated, ⟨hrows, hshort⟩, hserved⟩ := handleReceived_eq_ok.1 hs
    obtain ⟨hwords, hreplies⟩ := hserve.1 ⟨s, hserved⟩
    exact ⟨hterminated, hrows, hshort, hwords, hreplies⟩
  · intro h
    obtain ⟨s, hserved⟩ := hserve.2 ⟨h.words, h.replies⟩
    exact ⟨s, handleReceived_eq_ok.2 ⟨h.terminated, ⟨h.rows, h.short⟩, hserved⟩⟩

/-- `get_property a b c`: a fourth word is copied behind the rows of `parsed_data`. -/
def fourWords : List UInt8 :=
  getProperty ++ ascii [' ', 'a', ' ', 'b', ' ', 'c']

theorem fourWords_leaves_arrays : ¬∀ allocated list (received : List UInt8),
    received.length ≤ 1024 → ∃ s, handleReceived allocated list received = .ok s := by
  intro h
  obtain ⟨s, hs⟩ := h (fun _ => true) [] fourWords (by decide)
  obtain ⟨-, -, hserve⟩ := handleReceived_eq_ok.1 hs
  have hcommands : commandsOf (receivedText fourWords) = [fourWords] := by decide
  rw [hcommands] at hserve
  obtain ⟨hwords, -⟩ := (@Server.serve_isOk ⟨[], .cleared, [], []⟩ [] (fun _ => true) 0 [fourWords]
    Reply.cleared_shows (by decide) (by decide)).1 ⟨s, hserve⟩
  have hget : getProperty <:+: fourWords := ⟨[], _, rfl⟩
  exact absurd (hwords fourWords mem_cons_self (.inl hget)).1 (by decide)

end Property
