import PersonalAssistant.Mail.Port

/-!
# Dot stuffing

`_dot_stuffed` of `infrastructure/mail/smtp_client.py`, which makes the payload of DATA, and the
server that reads it line by line.
-/

namespace PersonalAssistant.Smtp

open List

abbrev cr : UInt8 := 13
abbrev lf : UInt8 := 10
abbrev dot : UInt8 := 46

attribute [local simp] cr lf dot

/-- `data.replace(b"\r\n.", b"\r\n..")`. -/
def replaceDots : Bytes → Bytes
  | 13 :: 10 :: 46 :: rest => cr :: lf :: dot :: dot :: replaceDots rest
  | byte :: rest => byte :: replaceDots rest
  | [] => []

/-- The data with CRLF at its end. -/
def ended (data : Bytes) : Bytes := if [cr, lf] <:+ data then data else data ++ [cr, lf]

def dotStuffed (data : Bytes) : Bytes :=
  let stuffed := replaceDots data
  let stuffed := if stuffed.head? = some dot then dot :: stuffed else stuffed
  ended stuffed ++ [dot, cr, lf]

/-- A line without the dot that stuffing put before it. -/
def undotted (line : Bytes) : Bytes := if line.head? = some dot then line.tail else line

/-- What the server makes of the bytes to come, when it has read `line` since the last CRLF and
`message` before: the message that a line of one dot ends, and the bytes behind it. -/
def receive (line message : Bytes) : Bytes → Option (Bytes × Bytes)
  | 13 :: 10 :: rest =>
    if line = [dot] then some (message, rest) else receive [] (message ++ undotted line ++ [cr, lf]) rest
  | byte :: rest => receive (line ++ [byte]) message rest
  | [] => none

variable {byte : UInt8} {rest line message : Bytes}

theorem replaceDots_cons (plain : ∀ after, byte = cr → rest ≠ lf :: dot :: after) :
    replaceDots (byte :: rest) = byte :: replaceDots rest := by
  rw [replaceDots]
  exact fun after first next => plain after first next

theorem head?_replaceDots (data : Bytes) : (replaceDots data).head? = data.head? := by
  fun_cases replaceDots data <;> rfl

theorem ended_cons (more : byte = cr → rest ≠ [lf]) : ended (byte :: rest) = byte :: ended rest := by
  have whole : [cr, lf] ≠ byte :: rest := by
    rintro ⟨⟩
    exact more rfl rfl
  simp only [ended, suffix_cons_iff, whole, false_or]
  split <;> rfl

theorem ended_line (filled : rest ≠ []) : ended (cr :: lf :: rest) = cr :: lf :: ended rest := by
  rw [ended_cons (by simpa using filled), ended_cons (by simp)]

theorem head?_ended (inside : rest.head? ≠ some lf) (tail : Bytes) :
    (ended (replaceDots rest) ++ tail).head? ≠ some lf := by
  rw [← head?_replaceDots] at inside
  generalize replaceDots rest = data at *
  unfold ended
  split <;> cases data <;> simp_all

theorem receive_crlf (more : line ≠ [dot]) :
    receive line message (cr :: lf :: rest) = receive [] (message ++ undotted line ++ [cr, lf]) rest := by
  rw [receive, if_neg more]

theorem receive_cons (inside : byte = cr → rest.head? ≠ some lf) :
    receive line message (byte :: rest) = receive (line ++ [byte]) message rest := by
  rw [receive]
  rintro after rfl rfl
  exact inside rfl rfl

theorem undotted_snoc (inside : line = [] → byte ≠ dot) : undotted (line ++ [byte]) = undotted line ++ [byte] := by
  cases line with
  | nil => simp [undotted, inside rfl]
  | cons first line => by_cases dotted : first = dot <;> simp [undotted, dotted]

theorem receive_end (more : line ≠ [dot]) :
    receive line message [cr, lf, dot, cr, lf] = some (message ++ undotted line ++ [cr, lf], []) := by
  rw [receive_crlf more, receive_cons (by simp), receive]
  simp

/-- The stuffed rest of the data, unless a dot that is not stuffed begins its line. -/
theorem receive_replaceDots (data : Bytes) (more : line ≠ [dot]) (inside : line = [] → data.head? ≠ some dot) :
    receive line message (ended (replaceDots data) ++ [dot, cr, lf]) = some
      (message ++ undotted line ++ ended data, []) := by
  induction size : data.length using Nat.strong_induction_on generalizing data line message
  rename_i ih
  subst size
  cases data with
  | nil => exact receive_end more
  | cons byte rest =>
  by_cases open_ : byte = cr → rest.head? ≠ some lf
  · have text : line = [] → byte ≠ dot := by simpa using inside
    rw [replaceDots_cons (by rintro _ rfl rfl; exact open_ rfl rfl)]
    rw [ended_cons fun first same => open_ first (by rw [← head?_replaceDots, same]; rfl)]
    rw [ended_cons (by rintro rfl rfl; exact open_ rfl rfl)]
    rw [cons_append, receive_cons, ih rest.length (by simp) _ ?_ (by simp) rfl]
    · simp [undotted_snoc text]
    · intro single
      rcases append_eq_singleton_iff.mp single with ⟨rfl, last⟩ | ⟨-, none⟩
      · exact text rfl (singleton_inj.mp last)
      · exact cons_ne_nil _ _ none
    · exact fun first => head?_ended (open_ first) _
  -- the line ends here
  simp only [Classical.not_imp, not_not] at open_
  obtain ⟨rfl, next⟩ := open_
  obtain ⟨rest, rfl⟩ := head?_eq_some_iff.mp next
  cases rest with
  | nil => exact receive_end more
  | cons first rest =>
  rw [ended_line (cons_ne_nil first rest)]
  by_cases dotted : first = dot
  · subst dotted
    rw [replaceDots, ended_line (by simp), ended_cons (by simp), ended_cons (by simp), ended_cons (by simp)]
    simp only [cons_append]
    rw [receive_crlf more, receive_cons (by simp), receive_cons (by simp)]
    rw [ih rest.length (by simp; omega) _ (by simp) (by simp) rfl]
    simp [undotted]
  · rw [replaceDots_cons (by simp [dotted]), replaceDots_cons (by simp), ended_line]
    · simp only [cons_append]
      rw [receive_crlf more, ih (first :: rest).length (by simp) _ (by simp) (by simpa using dotted) rfl]
      simp [undotted]
    · intro none
      simpa [none] using head?_replaceDots (first :: rest)

/-- **The server recovers what was sent**, with CRLF at its end, and consumes all of it. -/
theorem receive_dotStuffed (data : Bytes) : receive [] [] (dotStuffed data) = some (ended data, []) := by
  simp only [dotStuffed]
  split
  · rename_i dotted
    rw [head?_replaceDots] at dotted
    obtain ⟨rest, rfl⟩ := head?_eq_some_iff.mp dotted
    rw [replaceDots_cons (by simp), ended_cons (by simp), ended_cons (by simp), ended_cons (by simp)]
    simp only [cons_append]
    rw [receive_cons (by simp), receive_cons (by simp), receive_replaceDots _ (by simp) (by simp)]
    simp [undotted]
  · rename_i plain
    exact receive_replaceDots data (by simp) fun _ => head?_replaceDots data ▸ plain

end PersonalAssistant.Smtp
