import TwinSyntax.Text.BreakClass

/-!
# Clusters

A cluster is what a reader takes for one character: a letter with its marks, a Korean syllable, a
conjunct, a flag, pictures tied together by joiners. The rules are those for extended grapheme
clusters in the Unicode standard.

**The end of a cluster** (`ClusterEnd`). Whether a character belongs to the cluster in front of it
depends only on how that cluster ends. The end of a cluster is read off its characters one by one
(`ClusterEnd.push`), and says which characters it takes on (`ClusterEnd.takes`).

**Splitting** (`clusters`). A text is cut in front of every character that is not taken on, so the
clusters in order are the text.
-/

namespace TwinSyntax

/-- How far a conjunct has been written. -/
inductive Conjunct where
  | absent
  | begun
  | linked
  deriving DecidableEq, Repr, Inhabited

/-- How far pictures have been tied together. -/
inductive PictureChain where
  | absent
  | picture
  | joined
  deriving DecidableEq, Repr, Inhabited

/-- The end of a text that is read for clusters. -/
structure ClusterEnd where
  /-- The class of the last character. -/
  last : BreakClass
  /-- Whether it ends in a regional indicator that does not have its second yet. -/
  halfFlag : Bool
  chain : PictureChain
  conjunct : Conjunct
  deriving DecidableEq, Repr, Inhabited

/-- Whether a character of the class stands alone. -/
def BreakClass.isolated : BreakClass → Bool
  | .carriageReturn | .lineFeed | .control => true
  | _ => false

/-- Whether a character of the class belongs to the character in front of it. -/
def BreakClass.trails : BreakClass → Bool
  | .extend | .joiner | .spacing => true
  | _ => false

/-- Whether `next` goes on with the Korean syllable that ends in `last`. -/
def BreakClass.sameSyllable (last next : BreakClass) : Bool :=
  match last with
  | .jamoInitial =>
    next == .jamoInitial || next == .jamoVowel || next == .openSyllable || next == .closedSyllable
  | .openSyllable | .jamoVowel => next == .jamoVowel || next == .jamoFinal
  | .closedSyllable | .jamoFinal => next == .jamoFinal
  | _ => false

namespace ClusterEnd

/-- The end of the empty text. It takes on nothing. -/
def empty : ClusterEnd := ⟨.control, false, .absent, .absent⟩

/-- Whether a character of class `next` belongs to the cluster that ends so. -/
def takes (e : ClusterEnd) (next : BreakClass) : Bool :=
  if e.last.isolated || next.isolated then e.last == .carriageReturn && next == .lineFeed
  else
    next.trails || e.last == .leading || BreakClass.sameSyllable e.last next ||
      (next == .consonant && e.conjunct == .linked) ||
      (next == .pictograph && e.chain == .joined) || (next == .regional && e.halfFlag)

/-- The state of a conjunct behind `c`. A non-joiner ends it. -/
def nextConjunct (conjunct : Conjunct) (c : Char) (kind : BreakClass) : Conjunct :=
  if kind = .consonant then .begun
  else if isLinker c then if conjunct = .absent then .absent else .linked
  else if (kind = .extend && c ≠ '\u200c') || kind = .joiner then conjunct
  else .absent

/-- The state of a chain of pictures behind a character of class `kind`. Marks and skin tones may
stand between a picture and the joiner behind it. -/
def nextChain (chain : PictureChain) (kind : BreakClass) : PictureChain :=
  match kind with
  | .pictograph => .picture
  | .extend => if chain = .picture then .picture else .absent
  | .joiner => if chain = .picture then .joined else .absent
  | _ => .absent

/-- The end of the text with `c`, which is of class `kind`, behind it. -/
def push (e : ClusterEnd) (c : Char) (kind : BreakClass) : ClusterEnd where
  last := kind
  halfFlag := kind == .regional && !e.halfFlag
  chain := nextChain e.chain kind
  conjunct := nextConjunct e.conjunct c kind

end ClusterEnd

/-- Reads on in a text that ends in `e` so far, where `current` is the cluster that is being read,
in reverse order, and `done` are those before it. -/
def clustersFrom (e : ClusterEnd) (current : List Char) (done : Array (List Char)) :
    List Char → Array (List Char)
  | [] => if current.isEmpty then done else done.push current.reverse
  | c :: text =>
    let kind := BreakClass.ofChar c
    if e.takes kind then clustersFrom (e.push c kind) (c :: current) done text
    else
      clustersFrom (e.push c kind) [c]
        (if current.isEmpty then done else done.push current.reverse) text

/-- The clusters of a text, in order. -/
def clusters (text : String) : List (List Char) :=
  (clustersFrom .empty [] #[] text.toList).toList

theorem clustersFrom_flatten (e : ClusterEnd) (current : List Char) (done : Array (List Char))
    (text : List Char) :
    (clustersFrom e current done text).toList.flatten =
      done.toList.flatten ++ current.reverse ++ text := by
  induction text generalizing e current done with
  | nil =>
    rw [clustersFrom]
    split <;> simp_all
  | cons c text ih =>
    rw [clustersFrom]
    split
    · rw [ih]; simp
    · rw [ih]
      split <;> simp_all

/-- Nothing of a text is lost or moved when it is split into clusters. -/
theorem clusters_flatten (text : String) : (clusters text).flatten = text.toList := by
  simp [clusters, clustersFrom_flatten]

example : clusters "a\r\nb" = [['a'], ['\r', '\n'], ['b']] := by decide +kernel

example : (clusters "\u1112\u1161\u11ab").length = 1 := by decide +kernel

end TwinSyntax
