import UrlMask.Json.Cursor
import UrlMask.Json.Printer
import UrlMask.Proofs.Json.Order

/-!
# Both ways of writing

A value is written with blanks before its items and after its colons, or without. Whoever reads it
does not care which, so that both ways are taken as one here, with the blanks left open.

* `Style`: the blanks.
* `laid`: the value with these blanks. What follows an item belongs to the items after it, as a
  reader finds it.
* `compact_eq_laid`, `prettyAt_eq_laid`: the two ways of writing are of this kind.
-/
namespace UrlMask.Json

/-- The blanks before an item at some depth, and those after a colon. -/
structure Style where
  gap : Nat → List Char
  colon : List Char
  isBlank_gap : ∀ n, ∀ c ∈ gap n, Cursor.isBlank c = true
  isBlank_colon : ∀ c ∈ colon, Cursor.isBlank c = true

namespace Style

/-- No blanks at all. -/
def tight : Style := ⟨fun _ => [], [], by simp, by simp⟩

theorem isBlank_newline (n : Nat) : ∀ c ∈ newline n, Cursor.isBlank c = true := by
  intro c hc
  rcases List.mem_cons.1 hc with rfl | hc
  · rfl
  · rw [List.eq_of_mem_replicate hc]
    rfl

/-- One item a line. -/
def loose : Style := ⟨newline, [' '], isBlank_newline, List.forall_mem_singleton.2 rfl⟩

end Style

variable (s : Style)

/-- A value at some depth, with the blanks of a style. -/
def laid (n : Nat) : Json → List Char
  | array [] => ['[', ']']
  | array (j :: js) => '[' :: (s.gap (n + 1) ++ (j.laid (n + 1) ++ items n js))
  | object [] => ['\x7b', '\x7d']
  | object ((k, j) :: ms) =>
    '\x7b' :: (s.gap (n + 1) ++ (quoted k.toList ++
      ':' :: (s.colon ++ (j.laid (n + 1) ++ members n ms))))
  | j => j.scalar
where
  /-- What follows an item of an array. -/
  items (n : Nat) : List Json → List Char
    | [] => s.gap n ++ [']']
    | j :: js => ',' :: (s.gap (n + 1) ++ (j.laid (n + 1) ++ items n js))
  /-- What follows a member of an object. -/
  members (n : Nat) : List (String × Json) → List Char
    | [] => s.gap n ++ ['\x7d']
    | (k, j) :: ms =>
      ',' :: (s.gap (n + 1) ++ (quoted k.toList ++
        ':' :: (s.colon ++ (j.laid (n + 1) ++ members n ms))))

mutual

theorem compact_eq_laid : (n : Nat) → (j : Json) → j.compact = j.laid .tight n
  | _, .null | _, .bool _ | _, .integer _ | _, .float _ | _, .string _ => rfl
  | _, .array [] => rfl
  | n, .array (j :: js) => by
    rw [compact, compact_items n js j, compact_eq_laid (n + 1) j]
    rfl
  | _, .object [] => rfl
  | n, .object ((k, j) :: ms) => by
    rw [compact, compact_members n ms k j, compact_eq_laid (n + 1) j]
    rfl

theorem compact_items (n : Nat) : (js : List Json) → (j : Json) →
    compact.items (j :: js) ++ [']'] = j.compact ++ laid.items .tight n js
  | [], _ => rfl
  | i :: js, j => by
    rw [compact.items, List.append_assoc, List.cons_append, compact_items n js i,
      compact_eq_laid (n + 1) i]
    · rfl
    · exact List.cons_ne_nil _ _

theorem compact_members (n : Nat) : (ms : List (String × Json)) → (k : String) → (j : Json) →
    compact.members ((k, j) :: ms) ++ ['\x7d'] =
      quoted k.toList ++ ':' :: (j.compact ++ laid.members .tight n ms)
  | [], k, j => by
    simp [compact.members, laid.members, Style.tight]
  | (i, v) :: ms, k, j => by
    rw [compact.members]
    · simp only [List.append_assoc, List.cons_append]
      rw [compact_members n ms i v, compact_eq_laid (n + 1) v]
      rfl
    · exact List.cons_ne_nil _ _

end

mutual

theorem prettyAt_eq_laid : (n : Nat) → (j : Json) → j.prettyAt n = j.laid .loose n
  | _, .null | _, .bool _ | _, .integer _ | _, .float _ | _, .string _ => rfl
  | _, .array [] => rfl
  | n, .array (j :: js) => by
    rw [prettyAt, prettyAt_items n js j, prettyAt_eq_laid (n + 1) j]
    · rfl
    · exact List.cons_ne_nil _ _
  | _, .object [] => rfl
  | n, .object ((k, j) :: ms) => by
    rw [prettyAt, prettyAt_members n ms k j, prettyAt_eq_laid (n + 1) j]
    · rfl
    · exact List.cons_ne_nil _ _

theorem prettyAt_items (n : Nat) : (js : List Json) → (j : Json) →
    prettyAt.items (n + 1) (j :: js) ++ newline n ++ [']'] =
      newline (n + 1) ++ (j.prettyAt (n + 1) ++ laid.items .loose n js)
  | [], j => by
    simp [prettyAt.items, laid.items, Style.loose]
  | i :: js, j => by
    rw [prettyAt.items]
    · simp only [List.append_assoc, List.cons_append]
      rw [← List.append_assoc _ (newline n), prettyAt_items n js i, prettyAt_eq_laid (n + 1) i]
      rfl
    · exact List.cons_ne_nil _ _

theorem prettyAt_members (n : Nat) : (ms : List (String × Json)) → (k : String) → (j : Json) →
    prettyAt.members (n + 1) ((k, j) :: ms) ++ newline n ++ ['\x7d'] =
      newline (n + 1) ++ (quoted k.toList ++
        ':' :: ' ' :: (j.prettyAt (n + 1) ++ laid.members .loose n ms))
  | [], k, j => by
    simp [prettyAt.members, laid.members, Style.loose]
  | (i, v) :: ms, k, j => by
    rw [prettyAt.members]
    · simp only [List.append_assoc, List.cons_append]
      rw [← List.append_assoc _ (newline n), prettyAt_members n ms i v, prettyAt_eq_laid (n + 1) v]
      rfl
    · exact List.cons_ne_nil _ _

end

end UrlMask.Json
