import AddonUpkeep.Version.Basic

/-!
# The order of versions

Versions are compared by epoch, by release numbers without zeros at the end, and then by their
qualifiers.  A development release of a plain version comes before its pre-releases, a pre-release
before the release, and a post-release after it.  Local parts make a version later, words come
before numbers, and a longer row of local parts comes after its beginnings.
-/

namespace AddonUpkeep

namespace Version

/-- The release numbers without the zeros at their end. -/
def significant (version : Version) : List Nat :=
  (version.release.reverse.dropWhile (· == 0)).reverse

/-- The place of a version among the stages of its release: development releases of the plain
version, then the pre-releases by stage and number, then everything else. -/
def prePlace (version : Version) : Nat × Nat × Nat :=
  match version.pre with
  | some (stage, number) => (1, stage.rank, number)
  | none => if version.post.isNone && version.dev.isSome then (0, 0, 0) else (2, 0, 0)

/-- The place of a version among the post-releases, by stage and number: first the version without
one. -/
def postPlace (version : Version) : Nat × Nat :=
  match version.post with
  | none => (0, 0)
  | some (stage, number) => (stage.rank + 1, number)

/-- The place of a version among its development releases: last the version without one. -/
def devPlace (version : Version) : Nat × Nat :=
  match version.dev with
  | some number => (0, number)
  | none => (1, 0)

/-- The place of a local part: words by their letters, then numbers by their value. -/
def partPlace : LocalPart → Nat × List Nat
  | .word letters => (0, letters.map Char.toNat)
  | .number value => (1, [value])

/-- Compare two local parts. -/
def comparePart (left right : LocalPart) : Ordering :=
  compareLex (compareOn (·.1)) (fun a b ↦ List.compareLex compare a.2 b.2)
    (partPlace left) (partPlace right)

/-- Compare two versions. -/
def compare : Version → Version → Ordering :=
  compareLex (compareOn epoch) <|
  compareLex (fun left right ↦ List.compareLex Ord.compare left.significant right.significant) <|
  compareLex (compareOn (·.prePlace.1)) <|
  compareLex (compareOn (·.prePlace.2.1)) <|
  compareLex (compareOn (·.prePlace.2.2)) <|
  compareLex (compareOn (·.postPlace.1)) <|
  compareLex (compareOn (·.postPlace.2)) <|
  compareLex (compareOn (·.devPlace.1)) <|
  compareLex (compareOn (·.devPlace.2))
    fun left right ↦ List.compareLex comparePart left.build right.build

/-- The version is the minimum or later. -/
def atLeast (version minimum : Version) : Bool := (compare version minimum).isGE

end Version

end AddonUpkeep
