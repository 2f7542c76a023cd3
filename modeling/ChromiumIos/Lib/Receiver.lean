/-!
# Reading into a receiver

A reader fills an object, the receiver, which may hold something already. It says whether the input
was accepted, and stops at the first part that is not.

- `required`, `andThen`, `into`: a part that has to be there, a next part, a part of the receiver
  that has a reader of its own.
- `readList`, `readListIfAny`: the loop that reads each entry of a list into a fresh receiver.
- `ReadAlike`: whatever it held before, a receiver is filled alike.
- `Remembers`: the inputs a reader accepts, and what of the receiver is left of them.
- `Remembers.readAlike_iff`: receivers are filled alike exactly when they agree on that.
-/

namespace Lib

universe u v w

/-- What is read into `a` from `d`, and whether `d` was accepted. -/
abbrev Reader (δ : Type v) (α : Type u) := α → δ → Bool × α

variable {α : Type u} {β : Type w} {δ : Type v}

/-! ## The parts of a reader -/

/-- `field` has to be there. -/
def required (field : Option β) (assign : α → β → α) (a : α) : Bool × α :=
  match field with
  | some x => (true, assign a x)
  | none => (false, a)

/-- What was read before a part that is not accepted stays in the receiver. -/
def andThen (read : Bool × α) (next : α → Bool × α) : Bool × α :=
  if read.1 then next read.2 else read

/-- What was read into a part of the receiver. -/
def into (read : Bool × β) (assign : β → α) : Bool × α :=
  (read.1, assign read.2)

@[simp] theorem required_fst {field : Option β} {assign : α → β → α} {a : α} :
    (required field assign a).1 = field.isSome := by
  cases field <;> rfl

@[simp] theorem required_some (x : β) (assign : α → β → α) (a : α) :
    required (some x) assign a = (true, assign a x) := rfl

@[simp] theorem andThen_true (a : α) (next : α → Bool × α) : andThen (true, a) next = next a := rfl

@[simp] theorem into_fst (read : Bool × β) (assign : β → α) :
    (into read assign).1 = read.1 := rfl

@[simp] theorem into_snd (read : Bool × β) (assign : β → α) :
    (into read assign).2 = assign read.2 := rfl

theorem andThen_of_fst {read : Bool × α} (h : read.1 = true) (next : α → Bool × α) :
    andThen read next = next read.2 :=
  if_pos h

theorem andThen_fst_iff {read : Bool × α} {next : α → Bool × α} :
    (andThen read next).1 = true ↔ read.1 = true ∧ (next read.2).1 = true := by
  unfold andThen
  split
  · next h => exact (and_iff_right h).symm
  · next h => exact iff_of_false h fun hread => h hread.1

/-- A field that need not be there keeps its value when it is not. -/
theorem getD_eq_getD_iff {field : Option β} {x y : β} :
    field.getD x = field.getD y ↔ (field = none → x = y) := by
  cases field with
  | none => exact ⟨fun h _ => h, fun h => h rfl⟩
  | some x' => exact iff_of_true rfl fun h => absurd h (Option.some_ne_none x')

/-! ## Lists -/

/-- Each entry is read into a fresh receiver, which is put behind those `read` before. -/
def readList (reader : Reader δ α) (fresh : α) (dictOf : β → Option δ) :
    List β → List α → Bool × List α
  | [], read => (true, read)
  | b :: rest, read =>
    match dictOf b with
    | none => (false, read)
    | some d =>
      if (reader fresh d).1 then
        readList reader fresh dictOf rest (read ++ [(reader fresh d).2])
      else (false, read)

theorem readList_fst_iff {reader : Reader δ α} {fresh : α} {dictOf : β → Option δ}
    {entries : List β} {read : List α} :
    (readList reader fresh dictOf entries read).1 = true ↔
      ∀ b ∈ entries, ∃ d, dictOf b = some d ∧ (reader fresh d).1 = true := by
  induction entries generalizing read with
  | nil => exact iff_of_true rfl (List.forall_mem_nil _)
  | cons b rest ih =>
    rw [List.forall_mem_cons, readList]
    split
    · next hnone =>
      refine iff_of_false Bool.false_ne_true fun h => ?_
      obtain ⟨d, hd, _⟩ := h.1
      exact Option.some_ne_none d (hd.symm.trans hnone)
    · next d hd =>
      split
      · next hread => exact ih.trans (and_iff_right ⟨d, hd, hread⟩).symm
      · next hread =>
        refine iff_of_false Bool.false_ne_true fun h => ?_
        obtain ⟨d', hd', hread'⟩ := h.1
        obtain rfl : d = d' := Option.some.inj (hd.symm.trans hd')
        exact hread hread'

/-- A list that need not be there. -/
def readListIfAny (reader : Reader δ α) (fresh : α) (dictOf : β → Option δ)
    (entries : Option (List β)) (read : List α) : Bool × List α :=
  match entries with
  | some entries => readList reader fresh dictOf entries read
  | none => (true, read)

theorem readListIfAny_fst_iff {reader : Reader δ α} {fresh : α} {dictOf : β → Option δ}
    {entries : Option (List β)} {read : List α} :
    (readListIfAny reader fresh dictOf entries read).1 = true ↔
      ∀ list ∈ entries, ∀ b ∈ list, ∃ d, dictOf b = some d ∧ (reader fresh d).1 = true := by
  cases entries with
  | none => simp [readListIfAny]
  | some list => simp [readListIfAny, readList_fst_iff]

/-! ## What a receiver remembers -/

variable {reader : Reader δ α} {Accepts : δ → Prop} {Keeps : δ → α → α → Prop} {d : δ} {a b : α}

/-- `d` is accepted for one receiver as for the other, and then both hold the same. -/
def ReadAlike (reader : Reader δ α) (d : δ) (a b : α) : Prop :=
  (reader a d).1 = (reader b d).1 ∧ ((reader a d).1 = true → (reader a d).2 = (reader b d).2)

instance [DecidableEq α] : Decidable (ReadAlike reader d a b) := instDecidableAnd

/-- `reader` accepts the inputs with `Accepts`, whatever the receiver, and leaves those receivers
the same after one of them that are related by `Keeps`. -/
structure Remembers (reader : Reader δ α) (Accepts : δ → Prop) (Keeps : δ → α → α → Prop) :
    Prop where
  fst_iff : ∀ a d, (reader a d).1 = true ↔ Accepts d
  snd_iff : ∀ {a b d}, Accepts d → ((reader a d).2 = (reader b d).2 ↔ Keeps d a b)

namespace Remembers

theorem fst (h : Remembers reader Accepts Keeps) (hd : Accepts d) : (reader a d).1 = true :=
  (h.fst_iff a d).2 hd

theorem readAlike_iff (h : Remembers reader Accepts Keeps) :
    ReadAlike reader d a b ↔ (Accepts d → Keeps d a b) := by
  have hflag : (reader a d).1 = (reader b d).1 :=
    Bool.eq_iff_iff.2 ((h.fst_iff a d).trans (h.fst_iff b d).symm)
  constructor
  · intro halike hd
    exact (h.snd_iff hd).1 (halike.2 (h.fst hd))
  · intro hkeeps
    refine ⟨hflag, fun hread => ?_⟩
    have hd : Accepts d := (h.fst_iff a d).1 hread
    exact (h.snd_iff hd).2 (hkeeps hd)

theorem readListIfAny_fst_iff (h : Remembers reader Accepts Keeps) (fresh : α)
    {dictOf : β → Option δ} {entries : Option (List β)} (read : List α) :
    (readListIfAny reader fresh dictOf entries read).1 = true ↔
      ∀ list ∈ entries, ∀ b ∈ list, ∃ d, dictOf b = some d ∧ Accepts d := by
  simp only [Lib.readListIfAny_fst_iff, h.fst_iff]

end Remembers

end Lib
