import PortableFilter.Text.Cluster.Class

/-! # Clusters

A text is cut into clusters, the units that a reader takes for one character.
`joined` says whether a character belongs to the cluster of the characters before
it, and `clusters` cuts a text wherever it says no. The rules are those for
extended grapheme clusters of the Unicode standard. -/

namespace PortableFilter.Text

/-- Whether a character may stand between the consonants of a conjunct without linking them. It
extends a character, and it is not the sign that keeps letters apart. -/
def isConjunctExtender (c : Char) : Bool :=
  c.toNat ≠ 0x200C && (ClusterClass.of c == .extender || ClusterClass.of c == .joiner)

/-- Whether a text, last character first, ends in a consonant and signs that link it to the next
one. -/
def endsInConjunct (before : List Char) : Bool :=
  let signs := before.takeWhile isConjunctExtender
  signs.any conjunctLinkers.contains &&
    ((before.drop signs.length).head?.map ClusterClass.of) == some .conjunctConsonant

/-- Whether a text, last character first, ends in a pictograph and what extends it. -/
def endsInPictograph (before : List Char) : Bool :=
  ((before.dropWhile (ClusterClass.of · == .extender)).head?.map ClusterClass.of) ==
    some .pictograph

/-- Whether a text, last character first, ends in the first half of a flag. -/
def endsInHalfFlag (before : List Char) : Bool :=
  (before.takeWhile (ClusterClass.of · == .regional)).length % 2 == 1

/-- Whether a character belongs to the cluster of the characters before it, of which the last
comes first. -/
def joined (before : List Char) (next : Char) : Bool :=
  match before with
  | [] => false
  | last :: earlier =>
    let left := ClusterClass.of last
    let right := ClusterClass.of next
    if left.standsAlone || right.standsAlone then left == .carriageReturn && right == .lineFeed
    else left == .prependedMark || left.formsSyllable right ||
      match right with
      | .extender | .joiner | .spacingMark => true
      | .conjunctConsonant => endsInConjunct before
      | .pictograph => left == .joiner && endsInPictograph earlier
      | .regional => endsInHalfFlag before
      | _ => false

/-- The clusters of a text that follows the given characters, of which the last comes first. -/
def clustersAfter (before : List Char) : List Char → List (List Char)
  | [] => []
  | c :: rest =>
    match rest.head?.any (joined (c :: before)), clustersAfter (c :: before) rest with
    | true, cluster :: later => (c :: cluster) :: later
    | _, later => [c] :: later

/-- The clusters of a text. -/
def clusters (text : List Char) : List (List Char) := clustersAfter [] text

end PortableFilter.Text
