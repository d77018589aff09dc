import TrustBoundary.Path.Validate
import TrustBoundary.Proofs.Text.Display

/-!
# The grammar of a relative path

A checked path is defined by the segments between its slashes.  `judge` goes through
them from left to right and says what each one is: nothing, the directory itself, a
step to the parent, or a name.  `grammar` puts in front of this what concerns the path
as a whole: that it is empty, or that it begins with a slash.

The check reads bytes and characters, not segments.  It keeps its place with one bit,
whether a component begins here, and its budget drops to nothing once a name has begun.
At the beginning of a segment both agree (`scan_eq_judge`): what begins there is what
the segment is (`opening_append_of_proper`), the characters of a name are the displayable
characters of its segment (`scan_name`), and a slash leads to the next segment
(`scan_slash`).  So the check computes its grammar (`check_eq_grammar`).
-/

set_option autoImplicit false

namespace TrustBoundary.Path

open Display (IsDisplayable Stuck frontLength)

/-! ## The grammar -/

/-- Goes through the segments of a path, the first of which begins at `position`.
`budget` is how many steps to the parent may still be taken in front of every name,
and `names` is how many names came before. -/
def judge (rules : Rules) : (position budget names : Nat) → List Bytes → Except Violation Nat
  | _, _, names, [] => .ok names
  | position, budget, names, segment :: others =>
    let next := position + segment.length + 1
    if segment = [] then
      if others = [] then
        if rules.allowTrailingSlash || rules.allowNonCanonical then .ok names
        else .error .trailingSlash
      else if rules.allowNonCanonical then judge rules next budget names others
      else .error (.repeatedSlash position)
    else if segment = [0x2E] then
      if rules.allowNonCanonical then judge rules next budget names others
      else .error (.dotComponent position)
    else if segment = [0x2E, 0x2E] then
      if budget = 0 ∨ names ≠ 0 then .error (.dotDotComponent position)
      else judge rules next (budget - 1) names others
    else if IsDisplayable segment then
      judge rules next budget (names + 1) others
    else
      .error (.invalidCharacter (position + frontLength segment))

/-- What a text is as a relative path that may begin with up to `budget` steps to the
parent: the number of its names, or the first violation. -/
def grammar (text : Bytes) (budget : Nat) (rules : Rules) : Except Violation Nat :=
  if text = [] then
    if rules.allowEmpty then .ok 0 else .error .empty
  else if text.head? = some 0x2F then
    .error .absolute
  else
    judge rules 0 budget 0 (segments text)

/-! ## Segments -/

/-- What follows a segment: nothing, or a slash and the other segments. -/
inductive Follows : (tail : Bytes) → (others : List Bytes) → Prop
  | nothing : Follows [] []
  | slash (rest : Bytes) : Follows (0x2F :: rest) (segments rest)

/-- There is a first segment. -/
theorem segments_ne_nil (text : Bytes) : segments text ≠ [] := by
  unfold segments
  split
  · exact List.cons_ne_nil _ _
  · split
    · exact List.cons_ne_nil _ _
    · split <;> exact List.cons_ne_nil _ _

/-- A text is its first segment, which has no slash, and what follows it. -/
theorem exists_segment (text : Bytes) : ∃ segment tail others, 0x2F ∉ segment ∧
    text = segment ++ tail ∧ segments text = segment :: others ∧ Follows tail others := by
  induction text with
  | nil => exact ⟨[], [], [], List.not_mem_nil, rfl, rfl, .nothing⟩
  | cons byte rest ih =>
      by_cases slash : byte = 0x2F
      · subst slash
        exact ⟨[], 0x2F :: rest, segments rest, List.not_mem_nil, rfl, if_pos rfl, .slash rest⟩
      · obtain ⟨segment, tail, others, clean, rfl, split, follows⟩ := ih
        refine ⟨byte :: segment, tail, others, ?_, rfl, ?_, follows⟩
        · exact List.not_mem_cons_of_ne_of_not_mem (Ne.symm slash) clean
        · rw [segments, if_neg slash, split]

/-! ## What begins with a segment -/

variable {segment tail : Bytes} {others : List Bytes}

/-- A segment that is not empty, a dot or two dots opens a name. -/
theorem opening_append_of_proper (follows : Follows tail others) (clean : 0x2F ∉ segment)
    (proper : isProper segment) : opening (segment ++ tail) = .name := by
  -- three bytes decide what a component is
  rcases segment with _ | ⟨first, _ | ⟨second, _ | ⟨third, segment⟩⟩⟩
  · cases proper
  all_goals
    unfold opening
    split <;> cases follows <;> simp_all [isProper]

theorem opening_dot (follows : Follows tail others) : opening (0x2E :: tail) = .dot := by
  cases follows <;> rfl

theorem opening_dotDot (follows : Follows tail others) :
    opening (0x2E :: 0x2E :: tail) = .dotDot := by
  cases follows <;> rfl

section Opening

variable {first : UInt8} {rest : Bytes}

theorem eq_of_opening_slash (opens : opening (first :: rest) = .slash) : first = 0x2F := by
  unfold opening at opens
  split at opens <;> simp_all

theorem eq_of_opening_dot (opens : opening (first :: rest) = .dot) : first = 0x2E := by
  unfold opening at opens
  split at opens <;> simp_all

theorem exists_of_opening_dotDot (opens : opening (first :: rest) = .dotDot) :
    first = 0x2E ∧ ∃ tail, rest = 0x2E :: tail := by
  unfold opening at opens
  split at opens <;> simp_all

end Opening

/-- No character reaches from a segment into what follows it. -/
theorem stuck_append {rest : Bytes} (follows : Follows tail others) (nonempty : rest ≠ [])
    (stuck : Stuck rest) : Stuck (rest ++ tail) := by
  intro letter displayable next
  cases follows with
  | nothing =>
      rw [List.append_nil] at next
      exact stuck letter displayable next
  | slash more =>
      have positive := List.length_pos_iff.mpr nonempty
      rcases Nat.lt_or_ge rest.length (String.utf8EncodeChar letter).length with longer | inside
      · -- the slash would be a byte of the character
        have through : rest ++ [0x2F] <+: String.utf8EncodeChar letter := by
          refine List.prefix_of_prefix_length_le ⟨more, ?_⟩ next ?_
          · rw [List.append_assoc]
            rfl
          · rw [List.length_append]
            exact longer
        have member : 0x2F ∈ String.utf8EncodeChar letter :=
          through.subset (List.mem_append_right _ List.mem_cons_self)
        rw [Utf8.utf8EncodeChar_of_mem (by decide) member] at longer
        exact absurd longer (Nat.not_lt.mpr positive)
      · exact stuck letter displayable
          (List.prefix_of_prefix_length_le next (List.prefix_append _ _) inside)

/-! ## Scanning a segment -/

variable {rules : Rules} {position budget names : Nat}

/-- At the end, inside a component. -/
theorem scan_nil : scan rules [] position false budget names = .ok names := by
  rw [scan]
  rfl

/-- Inside a component, a character is passed over, and a component begins behind a slash. -/
theorem scan_safe {first : UInt8} {rest : Bytes} {width : Nat}
    (safe : Display.safeWidth position (first :: rest) = .ok width) :
    scan rules (first :: rest) position false budget names =
      scan rules (rest.drop (width - 1)) (position + width) (first = 0x2F) budget names := by
  conv => lhs; unfold scan
  dsimp only
  rw [safe]
  rfl

/-- Inside a component, the scan ends where no displayable character comes next. -/
theorem scan_stuck {rest : Bytes} (nonempty : rest ≠ []) (stuck : Stuck rest) :
    scan rules rest position false budget names = .error (.invalidCharacter position) := by
  obtain ⟨first, rest, rfl⟩ := List.exists_cons_of_ne_nil nonempty
  obtain ⟨objection, fails⟩ := Display.safeWidth_fails_iff.mpr stuck
  unfold scan
  dsimp only
  rw [fails]

/-- Where a name begins, the budget is gone. -/
theorem scan_name_start {text : Bytes} (opens : opening text = .name) (nonempty : text ≠ []) :
    scan rules text position true budget names = scan rules text position false 0 (names + 1) := by
  obtain ⟨first, rest, rfl⟩ := List.exists_cons_of_ne_nil nonempty
  conv => lhs; unfold scan
  conv => rhs; unfold scan
  dsimp only
  rw [opens]
  rfl

/-- Behind a segment, a slash leads to the next one. -/
theorem scan_slash (rest : Bytes) : scan rules (0x2F :: rest) position false budget names =
    scan rules rest (position + 1) true budget names := by
  have safe : Display.safeWidth position (0x2F :: rest) = .ok 1 := rfl
  rw [scan_safe safe]
  rfl

/-- A displayable character that is no slash is passed over inside a component. -/
theorem scan_letter {letter : Char} (displayable : Display.Displayable letter)
    (clean : 0x2F ∉ String.utf8EncodeChar letter) (rest : Bytes) :
    scan rules (String.utf8EncodeChar letter ++ rest) position false budget names =
      scan rules rest (position + (String.utf8EncodeChar letter).length) false budget names := by
  obtain ⟨first, others, encoded, safe⟩ :=
    Display.exists_safeWidth_encode displayable position rest
  rw [encoded] at clean
  have noSlash : ¬first = 0x2F := fun same => clean (same ▸ List.mem_cons_self)
  rw [encoded, List.cons_append, scan_safe safe, decide_eq_false noSlash, Nat.add_sub_cancel,
    List.drop_left, List.length_cons]

/-- So are displayable characters without a slash. -/
theorem scan_letters {letters : List Char} (all : ∀ letter ∈ letters, Display.Displayable letter)
    (clean : 0x2F ∉ Display.encode letters) (rest : Bytes) :
    scan rules (Display.encode letters ++ rest) position false budget names =
      scan rules rest (position + (Display.encode letters).length) false budget names := by
  induction letters generalizing position with
  | nil => rfl
  | cons letter letters ih =>
      obtain ⟨displayable, all⟩ := List.forall_mem_cons.mp all
      rw [Display.encode_cons, List.mem_append, not_or] at clean
      rw [Display.encode_cons, List.append_assoc, scan_letter displayable clean.1, ih all clean.2,
        List.length_append, Nat.add_assoc]

/-- **Scanning the name of a segment** leads to its end, or to its first character that
is not displayable. -/
theorem scan_name (follows : Follows tail others) (clean : 0x2F ∉ segment) :
    scan rules (segment ++ tail) position false budget names =
      if IsDisplayable segment then
        scan rules tail (position + segment.length) false budget names
      else
        .error (.invalidCharacter (position + frontLength segment)) := by
  obtain ⟨letters, rest, all, rfl, stuck⟩ := Display.exists_run segment
  have lettersClean : 0x2F ∉ Display.encode letters := fun member =>
    clean (List.mem_append_left _ member)
  rw [List.append_assoc, scan_letters all lettersClean, Display.frontLength_eq all stuck]
  by_cases nothing : rest = []
  · rw [if_pos ((Display.isDisplayable_run_iff all stuck).mpr nothing), nothing, List.append_nil,
      List.nil_append]
  · rw [if_neg (mt (Display.isDisplayable_run_iff all stuck).mp nothing)]
    refine scan_stuck ?_ (stuck_append follows nothing stuck)
    exact List.append_ne_nil_of_left_ne_nil nothing _

/-! ## Scanning the beginning of a segment -/

/-- At the end, behind a slash. -/
theorem scan_nil_fresh : scan rules [] position true budget names =
    if rules.allowTrailingSlash || rules.allowNonCanonical then .ok names
    else .error .trailingSlash := by
  rw [scan]
  cases rules.allowTrailingSlash || rules.allowNonCanonical <;> rfl

/-- An empty segment with another one behind it. -/
theorem scan_slash_fresh (rest : Bytes) : scan rules (0x2F :: rest) position true budget names =
    if rules.allowNonCanonical then scan rules rest (position + 1) true budget names
    else .error (.repeatedSlash position) := by
  conv => lhs; unfold scan
  rfl

/-- A segment that is a dot. -/
theorem scan_dot (follows : Follows tail others) :
    scan rules (0x2E :: tail) position true budget names =
      if rules.allowNonCanonical then scan rules tail (position + 1) false budget names
      else .error (.dotComponent position) := by
  conv => lhs; unfold scan
  rw [opening_dot follows]

/-- A segment that is two dots. -/
theorem scan_dotDot (follows : Follows tail others) :
    scan rules (0x2E :: 0x2E :: tail) position true budget names =
      if budget = 0 then .error (.dotDotComponent position)
      else scan rules tail (position + 2) false (budget - 1) names := by
  conv => lhs; unfold scan
  rw [opening_dotDot follows]
  rfl

/-! ## The check computes its grammar -/

/-- **Where a segment begins, scanning is judging**: the budget is the one for steps to the
parent as long as no name has begun, and nothing from then on. -/
theorem scan_eq_judge (rules : Rules) (text : Bytes) (position budget names : Nat) :
    scan rules text position true (if names = 0 then budget else 0) names =
      judge rules position budget names (segments text) := by
  induction length : text.length using Nat.strongRecOn generalizing text position budget names with
  | ind count ih =>
      obtain ⟨segment, tail, others, clean, rfl, split, follows⟩ := exists_segment text
      rw [List.length_append] at length
      have continues : ∀ next budget names,
          scan rules tail next false (if names = 0 then budget else 0) names =
            judge rules (next + 1) budget names others := by
        intro next budget names
        cases follows with
        | nothing => rw [scan_nil, judge]
        | slash rest =>
            rw [List.length_cons] at length
            rw [scan_slash]
            exact ih _ (by omega) rest _ _ _ rfl
      rw [split, judge]
      by_cases empty : segment = []
      · subst empty
        cases follows with
        | nothing => exact scan_nil_fresh
        | slash rest =>
            rw [List.length_cons] at length
            rw [if_pos rfl, if_neg (segments_ne_nil rest), List.nil_append, scan_slash_fresh]
            rw [ih _ (by omega) rest _ _ _ rfl]
            rfl
      by_cases dot : segment = [0x2E]
      · subst dot
        rw [if_neg empty, if_pos rfl, List.singleton_append, scan_dot follows, continues]
        rfl
      by_cases dotDot : segment = [0x2E, 0x2E]
      · subst dotDot
        rw [if_neg empty, if_neg dot, if_pos rfl, List.cons_append, List.singleton_append,
          scan_dotDot follows]
        by_cases started : names = 0
        · subst started
          by_cases spent : budget = 0
          · rw [if_pos rfl, if_pos spent, if_pos (.inl spent)]
          · have further := continues (position + 2) (budget - 1) 0
            rw [if_pos rfl] at further
            rw [if_pos rfl, if_neg spent, if_neg (by simpa using spent), further]
            rfl
        · rw [if_neg started, if_pos rfl, if_pos (.inr started)]
      · have proper : isProper segment := by simp [isProper, empty, dot, dotDot]
        have nonempty : segment ++ tail ≠ [] := List.append_ne_nil_of_left_ne_nil empty _
        have further := continues (position + segment.length) budget (names + 1)
        rw [if_neg (Nat.succ_ne_zero names)] at further
        rw [if_neg empty, if_neg dot, if_neg dotDot,
          scan_name_start (opening_append_of_proper follows clean proper) nonempty,
          scan_name follows clean, further]

/-- What is not empty and does not begin with a slash is judged by its segments. -/
theorem check_of_relative {untrusted : Bytes} {first : UInt8} {rest : Bytes}
    (text : untrusted.untilNul = first :: rest) (relative : first ≠ 0x2F) (budget : Nat)
    (rules : Rules) :
    check untrusted budget rules = judge rules 0 budget 0 (segments (first :: rest)) := by
  unfold check
  rw [text, ← scan_eq_judge, if_pos rfl]
  split
  · rename_i impossible
    cases impossible
  · rename_i same
    exact absurd (List.cons.inj same).1 relative
  · rename_i same
    rw [same]

/-- **The check of a relative path computes its grammar.** -/
theorem check_eq_grammar (untrusted : Bytes) (budget : Nat) (rules : Rules) :
    check untrusted budget rules = grammar untrusted.untilNul budget rules := by
  unfold grammar
  cases text : untrusted.untilNul with
  | nil =>
      unfold check
      rw [text]
      rfl
  | cons first rest =>
      rw [if_neg (List.cons_ne_nil _ _), List.head?_cons]
      by_cases absolute : first = 0x2F
      · unfold check
        rw [text, absolute]
        rfl
      · rw [if_neg (mt Option.some.inj absolute), check_of_relative text absolute]

end TrustBoundary.Path
