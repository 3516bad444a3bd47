import Mathlib.Data.List.TakeWhile

/-!
# The authority of a URL

What stands between `://` and the first `/`, `?` or `#`: the host, with perhaps a
user and a port.  Text that is appended to a URL leaves the authority alone if that
has ended, or if the text ends it.
-/

namespace UrlAuthority

/-- What follows the first `://`. -/
def afterScheme : List Char → Option (List Char)
  | ':' :: '/' :: '/' :: rest => some rest
  | _ :: rest => afterScheme rest
  | [] => none

def endsAuthority (char : Char) : Bool :=
  char = '/' || char = '?' || char = '#'

def authority (url : List Char) : Option (List Char) :=
  (afterScheme url).map (List.takeWhile (!endsAuthority ·))

/-- The authority of the URL has an end. -/
def Closed (url : List Char) : Prop :=
  ∃ rest, afterScheme url = some rest ∧ ∃ char ∈ rest, endsAuthority char = true

theorem afterScheme_append {url rest : List Char} (found : afterScheme url = some rest)
    (more : List Char) : afterScheme (url ++ more) = some (rest ++ more) := by
  induction url using afterScheme.induct with
  | case1 rest' =>
      cases found
      rfl
  | case2 char url other ih =>
      rw [afterScheme] at found
      · rw [List.cons_append, afterScheme]
        · exact ih found
        · -- A scheme that ends in the appended text would not have been found before.
          rintro after rfl same
          cases url with
          | nil => cases found
          | cons second url =>
              cases url with
              | nil =>
                  rw [List.cons_append] at same
                  cases (List.cons.inj same).1
                  cases found
              | cons third url =>
                  rw [List.cons_append, List.cons_append] at same
                  cases (List.cons.inj same).1
                  cases (List.cons.inj (List.cons.inj same).2).1
                  exact other url rfl rfl
      · exact other
  | case3 => cases found

theorem takeWhile_append_eq_iff {α : Type} {keep : α → Bool} {front back : List α} :
    (front ++ back).takeWhile keep = front.takeWhile keep ↔
      (∃ item ∈ front, keep item = false) ∨ ∀ item ∈ back.head?, keep item = false := by
  rw [List.takeWhile_append]
  split
  · next whole =>
      have all : front.takeWhile keep = front :=
        (List.takeWhile_prefix keep).eq_of_length whole
      have kept : ¬∃ item ∈ front, keep item = false := by
        rintro ⟨item, member, refused⟩
        have passed := List.takeWhile_eq_self_iff.mp all item member
        rw [refused] at passed
        cases passed
      rw [all, List.append_right_eq_self]
      cases back with
      | nil => simp
      | cons item back => simp [List.takeWhile_cons, kept]
  · next part =>
      refine iff_of_true rfl (.inl ?_)
      by_contra none
      refine part (congrArg List.length (List.takeWhile_eq_self_iff.mpr fun item member => ?_))
      by_contra refused
      exact none ⟨item, member, Bool.eq_false_iff.mpr refused⟩

/-- The authority survives appended text exactly if it has an end, or if the text is
empty or begins with one. -/
theorem authority_append_iff {base home : List Char} (found : authority base = some home)
    (more : List Char) :
    authority (base ++ more) = some home ↔
      Closed base ∨ ∀ char ∈ more.head?, endsAuthority char = true := by
  rcases Option.map_eq_some_iff.mp found with ⟨rest, after, rfl⟩
  have closed : Closed base ↔ ∃ char ∈ rest, endsAuthority char = true := by
    constructor
    · rintro ⟨other, same, char, member, ends⟩
      rw [after] at same
      cases same
      exact ⟨char, member, ends⟩
    · exact fun ⟨char, member, ends⟩ => ⟨rest, after, char, member, ends⟩
  rw [authority, afterScheme_append after, Option.map_some, Option.some_inj,
    takeWhile_append_eq_iff, closed]
  simp

end UrlAuthority
