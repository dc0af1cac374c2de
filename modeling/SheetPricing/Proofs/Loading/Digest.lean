import SheetPricing.Digest.Sha256
import SheetPricing.Loading.CellFile
import SheetPricing.Loading.Loader

/-! Digests of files. A digest is written in hexadecimal digits, so it is no URL and never stands
for one in a cache. -/
namespace SheetPricing.Loading

/-- The digits that a digest is written in. -/
def digestDigits : List Char :=
  ['0', '1', '2', '3', '4', '5', '6', '7', '8', '9', 'a', 'b', 'c', 'd', 'e', 'f']

theorem mem_toDigits {n : Nat} {c : Char} (inside : c ∈ Nat.toDigits 16 n) : c ∈ digestDigits := by
  have digit : ∀ n < 16, Nat.digitChar n ∈ digestDigits := by decide
  induction n using Nat.strongRecOn with
  | ind n ih =>
    rw [Nat.toDigits_eq_if (by decide)] at inside
    split at inside
    · next small =>
      rw [List.mem_singleton.mp inside]
      exact digit n small
    · next large =>
      rcases List.mem_append.mp inside with before | last
      · exact ih (n / 16) (by omega) before
      · rw [List.mem_singleton.mp last]
        exact digit (n % 16) (Nat.mod_lt n (by decide))

theorem mem_hexadecimal {word : UInt32} {c : Char} (inside : c ∈ (Sha256.hexadecimal word).toList) :
    c ∈ digestDigits := by
  rw [Sha256.hexadecimal, String.toList_ofList] at inside
  rcases List.mem_append.mp inside with zero | digit
  · rw [List.eq_of_mem_replicate zero]
    decide
  · exact mem_toDigits digit

theorem mem_hexDigest {message : List UInt8} {c : Char}
    (inside : c ∈ (Sha256.hexDigest message).toList) : c ∈ digestDigits := by
  rw [Sha256.hexDigest, String.toList_join] at inside
  obtain ⟨text, member, held⟩ := List.mem_flatMap.mp inside
  obtain ⟨word, _, rfl⟩ := List.mem_map.mp member
  exact mem_hexadecimal held

theorem isUrl_hexDigest (message : List UInt8) : isUrl (Sha256.hexDigest message) = false := by
  have apart : ∀ c ∈ digestDigits, ('h' != c.toLower) = true := List.all_eq_true.mp (by decide)
  rw [isUrl, Text.lowered]
  cases text : (Sha256.hexDigest message).toList with
  | nil => rfl
  | cons c rest =>
    have digit : c ∈ digestDigits := mem_hexDigest (text ▸ List.mem_cons_self)
    have other : ('h' == c.toLower) = false :=
      beq_eq_false_iff_ne.mpr (bne_iff_ne.mp (apart c digit))
    simp [urlSchemes, List.isPrefixOf, other]

/-- Files that list their cells, told apart by the digests of their texts. -/
def cellFormat : FileFormat Json where
  digest file := Sha256.hexDigest ((Text.octets file.render.toList).map UInt8.ofNat)
  sheets := CellFile.sheets
  isText := CellFile.isText
  ofOctets := CellFile.ofOctets

theorem isUrl_digest (file : Json) : isUrl (cellFormat.digest file) = false := isUrl_hexDigest _

/-- A file with one worksheet, which has one number in it. -/
def oneCellFile (sheet : String) (number : Int) : Json :=
  .object [("sheets", .list [.list [.text sheet, .object [("A5", .integer number)]]])]

/-- Files that have one number each, on one worksheet. -/
def numberFormat : FileFormat Int where
  digest number := cellFormat.digest (oneCellFile "Prijzen" number)
  sheets number := cellFormat.sheets (oneCellFile "Prijzen" number)
  isText _ := false
  ofOctets octets := octets.length

end SheetPricing.Loading
