/-
Labelled things. A selector asks only one question of the labels it is tried on:
which label stands under a key. `LabelMap` is that question, and the tables of the
standard library answer it, as does any lookup function.
-/

import Std.Data.HashMap
import Std.Data.TreeMap

namespace LabelQuery

/-- A collection of labels, each under a key of its own. -/
class LabelMap (μ : Type) where
  /-- The label under a key. -/
  label? : μ → String → Option String

export LabelMap (label?)

instance : LabelMap (String → Option String) where
  label? lookup key := lookup key

instance : LabelMap (Std.HashMap String String) where
  label? labels key := labels[key]?

instance : LabelMap (Std.TreeMap String String) where
  label? labels key := labels[key]?

end LabelQuery
