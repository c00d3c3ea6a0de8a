import Mathlib.Data.List.Basic
import MongoDriver.Options.ClientOptions

/-! # The X.509 username

`setURIOpts` names a MONGODB-X509 user after the subject of its client certificate, with the
relative distinguished names in the opposite order from the one `Subject.String()` writes.
`extractX509UsernameFromSubject` splits the subject at every comma and reverses the pieces with
a two-index swap loop. The pieces are the names when no name holds a comma; an attribute value
with a comma, which `Subject.String()` writes as `\,`, is cut in two.
-/

namespace MongoDriver.Options

/-- `strings.Split(s, sep)` for a one-character separator. -/
def stringsSplit (s : String) (sep : Char) : List String := (s.data.splitOn sep).map String.mk

def stringsJoin (elems : List String) (sep : String) : String :=
  ⟨sep.data.intercalate (elems.map String.data)⟩

def swap (pairs : List String) (left right : Nat) : List String :=
  (pairs.set left (pairs.getD right "")).set right (pairs.getD left "")

/-- The loop `for left, right := 0, len(pairs)-1; left < right; left, right = left+1, right-1`. -/
def swapLoop (pairs : List String) (left : Nat) : Nat → List String
  | 0 => pairs
  | right + 1 =>
    if left < right + 1 then swapLoop (swap pairs left (right + 1)) (left + 1) right else pairs

def extractX509UsernameFromSubject (subject : String) : String :=
  let pairs := stringsSplit subject ','
  stringsJoin (swapLoop pairs 0 (pairs.length - 1)) ","

theorem getElem?_swap {pairs : List String} {i j : Nat} (hi : i < pairs.length)
    (hj : j < pairs.length) (hij : i ≠ j) (k : Nat) :
    (swap pairs i j)[k]? = if k = i then pairs[j]? else if k = j then pairs[i]? else pairs[k]? := by
  simp only [swap, List.getElem?_set, List.length_set, List.getD_eq_getElem?_getD,
    List.getElem?_eq_getElem hi, List.getElem?_eq_getElem hj, Option.getD_some, hi, hj, if_true]
  split_ifs <;> first | rfl | omega

theorem getElem?_swapLoop (pairs : List String) (left right k : Nat)
    (hr : right < pairs.length) :
    (swapLoop pairs left right)[k]? =
      if left ≤ k ∧ k ≤ right then pairs[left + right - k]? else pairs[k]? := by
  induction right generalizing pairs left with
  | zero => split_ifs <;> first | rfl | (congr 1; omega)
  | succ right ih =>
    by_cases hlt : left < right + 1
    · rw [swapLoop, if_pos hlt, ih _ _ (by simpa [swap] using Nat.lt_of_succ_lt hr)]
      simp only [getElem?_swap (Nat.lt_trans hlt hr) hr (Nat.ne_of_lt hlt)]
      split_ifs <;> first | rfl | (congr 1; omega)
    · rw [swapLoop, if_neg hlt]
      split_ifs <;> first | rfl | (congr 1; omega)

theorem swapLoop_eq_reverse (pairs : List String) :
    swapLoop pairs 0 (pairs.length - 1) = pairs.reverse := by
  rcases eq_or_ne pairs [] with rfl | hne
  · rfl
  have hlen : 0 < pairs.length := List.length_pos.mpr hne
  apply List.ext_getElem?
  intro k
  rw [getElem?_swapLoop _ _ _ _ (by omega)]
  by_cases hk : k < pairs.length
  · rw [List.getElem?_reverse hk, if_pos (by omega)]
    congr 1
    omega
  · rw [if_neg (by omega), List.getElem?_eq_none (by omega),
      List.getElem?_eq_none (by simpa using hk)]

theorem stringsSplit_stringsJoin {rdns : List String} (hrdns : ∀ r ∈ rdns, ',' ∉ r.data)
    (hne : rdns ≠ []) : stringsSplit (stringsJoin rdns ",") ',' = rdns := by
  have hsplit := List.splitOn_intercalate (rdns.map String.data) ',' (by simpa using hrdns)
    (by simpa using hne)
  simp only [stringsSplit, stringsJoin]
  rw [hsplit, List.map_map]
  exact List.map_id'' (fun s => rfl) rdns

theorem extractX509UsernameFromSubject_stringsJoin {rdns : List String}
    (hrdns : ∀ r ∈ rdns, ',' ∉ r.data) :
    extractX509UsernameFromSubject (stringsJoin rdns ",") = stringsJoin rdns.reverse "," := by
  rcases eq_or_ne rdns [] with rfl | hne
  · rfl
  simp only [extractX509UsernameFromSubject, stringsSplit_stringsJoin hrdns hne,
    swapLoop_eq_reverse]

example : extractX509UsernameFromSubject "CN=client,OU=drivers,O=MongoDB" =
    "O=MongoDB,OU=drivers,CN=client" := by
  decide

/-- The username reverses the names of a subject, but splits a name holding an escaped comma. -/
theorem extractX509UsernameFromSubject_splits_escaped_comma :
    (∀ rdns : List String, (∀ r ∈ rdns, ',' ∉ r.data) →
      extractX509UsernameFromSubject (stringsJoin rdns ",") = stringsJoin rdns.reverse ",") ∧
    extractX509UsernameFromSubject (stringsJoin ["CN=Doe\\, John", "O=Acme"] ",") ≠
      stringsJoin ["CN=Doe\\, John", "O=Acme"].reverse "," :=
  ⟨fun _ => extractX509UsernameFromSubject_stringsJoin, by decide⟩

section SetURIOpts

variable (toLower : String → String)

/-- The username step of `setURIOpts` once the client certificate is loaded. -/
def setX509Username (opts : ClientOptions) (x509Subject : String) : ClientOptions :=
  match opts.exported .auth with
  | some (cred : Credential) =>
    if toLower cred.authMechanism = "mongodb-x509" ∧ cred.username = "" then
      let cred := { cred with username := extractX509UsernameFromSubject x509Subject }
      { opts with exported := Function.update opts.exported .auth (some cred) }
    else opts
  | none => opts

end SetURIOpts

end MongoDriver.Options
