import Muster.Unicode.ClusterClass

/-!
# Clusters of characters

A text is cut into clusters, each of which a reader takes for one character: between two neighbours
there is a cut unless a rule joins them. The rules look back no further than to the beginning of the
cluster. Main statements: nothing is lost (`flatten_clusters`), and no cluster is empty
(`ne_nil_of_mem_clusters`).
-/

namespace Muster.Text

open Muster.Unicode (ClusterClass clusterClass)

/-- What a cluster ends with. -/
structure ClusterEnd where
  /-- The class of the last character. -/
  last : ClusterClass
  /-- Whether the last character is one half of a flag that still lacks the other. -/
  halfFlag : Bool := false
  /-- Whether only marks follow a picture. -/
  afterPicture : Bool := false
  /-- Whether only marks that tie follow a consonant. -/
  afterConsonant : Bool := false
  /-- Whether one of these marks ties the consonant to the next one. -/
  linked : Bool := false
  deriving Repr

namespace ClusterEnd

/-- The end of a cluster of one character. -/
def ofClass (c : ClusterClass) : ClusterEnd where
  last := c
  halfFlag := c = .indicator
  afterPicture := c = .picture
  afterConsonant := c = .consonant

/-- Whether a character of the given class is joined to the cluster. -/
def joins (e : ClusterEnd) (c : ClusterClass) : Bool :=
  match e.last, c with
  | .carriageReturn, .lineFeed => true
  | .carriageReturn, _ | .lineFeed, _ | .control, _ => false
  | _, .carriageReturn | _, .lineFeed | _, .control => false
  -- marks belong to what stands before them, and some signs to what stands after them
  | _, .mark | _, .linker | _, .nonJoiner | _, .joiner | _, .spacing => true
  | .prepended, _ => true
  -- the letters of a syllable
  | .leading, .leading | .leading, .vowel => true
  | .leading, .openSyllable | .leading, .closedSyllable => true
  | .openSyllable, .vowel | .openSyllable, .trailing | .vowel, .vowel | .vowel, .trailing => true
  | .closedSyllable, .trailing | .trailing, .trailing => true
  | _, .consonant => e.linked
  | .joiner, .picture => e.afterPicture
  | .indicator, .indicator => e.halfFlag
  | _, _ => false

/-- The end of the cluster when a character that is joined to it has been added. -/
def add (e : ClusterEnd) (c : ClusterClass) : ClusterEnd :=
  let ties := e.afterConsonant && c ∈ [.mark, .linker, .joiner]
  let marks := e.afterPicture && c ∈ [.mark, .linker, .nonJoiner, .joiner]
  { last := c
    halfFlag := c = .indicator && !e.halfFlag
    -- a joiner is the last mark
    afterPicture := c = .picture || (marks && e.last ≠ .joiner)
    afterConsonant := c = .consonant || ties
    linked := ties && (e.linked || c = .linker) }

end ClusterEnd

/-- The clusters of a text whose first one begins with the given characters. -/
def clustersFrom (cluster : List Char) (e : ClusterEnd) : List Char → List (List Char)
  | [] => [cluster]
  | c :: rest =>
    if e.joins (clusterClass c) then
      clustersFrom (cluster ++ [c]) (e.add (clusterClass c)) rest
    else cluster :: clustersFrom [c] (.ofClass (clusterClass c)) rest

/-- The clusters of a text. -/
def clusters : List Char → List (List Char)
  | [] => []
  | c :: rest => clustersFrom [c] (.ofClass (clusterClass c)) rest

theorem flatten_clustersFrom (cluster : List Char) (e : ClusterEnd) (text : List Char) :
    (clustersFrom cluster e text).flatten = cluster ++ text := by
  induction text generalizing cluster e with
  | nil => simp [clustersFrom]
  | cons c rest ih =>
    unfold clustersFrom
    split
    · simp [ih]
    · simp [ih]

theorem ne_nil_of_mem_clustersFrom {cluster : List Char} (e : ClusterEnd) {text : List Char}
    (h : cluster ≠ []) : ∀ part ∈ clustersFrom cluster e text, part ≠ [] := by
  induction text generalizing cluster e with
  | nil => simpa [clustersFrom] using h
  | cons c rest ih =>
    unfold clustersFrom
    split
    · exact ih _ (by simp)
    · intro part hpart
      rcases List.mem_cons.1 hpart with rfl | hpart
      · exact h
      · exact ih _ (by simp) part hpart

/-- The clusters of a text make up the text. -/
theorem flatten_clusters (text : List Char) : (clusters text).flatten = text := by
  cases text with
  | nil => rfl
  | cons c rest => exact flatten_clustersFrom [c] _ rest

/-- Every cluster has a character. -/
theorem ne_nil_of_mem_clusters (text : List Char) : ∀ part ∈ clusters text, part ≠ [] := by
  cases text with
  | nil => simp [clusters]
  | cons c rest => exact ne_nil_of_mem_clustersFrom _ (by simp)

end Muster.Text
