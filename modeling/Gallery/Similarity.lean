import Gallery.Fingerprint

/-!
# `Gallery.Similarity` — when two images are similar, and how much

Two fingerprints are similar when their distance is at most a threshold.  Their score falls in equal
steps from one, at distance zero, towards zero, just beyond the threshold, and is rounded to single
precision.

## Contents
- `Similarity`, a threshold and a metric; `Similarity.score`.
- `scoreKey`, the order of scores, and `maxScore`.
-/

namespace Gallery

/-- How images are compared. -/
structure Similarity where
  /-- The largest distance of similar fingerprints. -/
  threshold : UInt32
  /-- The distance of two fingerprints. -/
  metric : Fingerprint → Fingerprint → UInt32

/-- The threshold unless another is asked for: ten of the 64 bits. -/
def Similarity.defaultThreshold : UInt32 := 10

instance : Inhabited Similarity := ⟨⟨Similarity.defaultThreshold, hammingDistance⟩⟩

/-- The score of two fingerprints, if they are similar: the share of `threshold + 1` that their
distance leaves. -/
def Similarity.score (s : Similarity) (a b : Fingerprint) : Option Float32 :=
  let d := s.metric a b
  if s.threshold < d then none
  else
    let t := (s.threshold + 1).toFloat32
    some ((t - d.toFloat32) / t)

/-- The bit that tells negative scores from positive ones. -/
def signBit : Nat := 0x80000000

/-- A number that orders scores as their values do: the bits of a positive score, and the complement
of the remaining bits of a negative one. -/
def scoreKey (score : Float32) : Int :=
  let bits := score.toBits.toNat
  if bits < signBit then bits else -((bits : Int) - signBit) - 1

/-- The larger of two scores. -/
def maxScore (a b : Float32) : Float32 := if scoreKey a < scoreKey b then b else a

end Gallery
