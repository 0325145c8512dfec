/-!
# The order of texts

Texts are ordered by the code points of their characters, the first difference deciding.
-/
namespace UrlMask.Text

/-- Whether the first text comes before the second. -/
def precedes : List Char → List Char → Bool
  | _, [] => false
  | [], _ :: _ => true
  | a :: s, b :: t => a.toNat < b.toNat || (a == b && precedes s t)

end UrlMask.Text
