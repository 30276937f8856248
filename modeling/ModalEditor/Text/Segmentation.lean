import ModalEditor.Text.Width

/-! What motions need to know of clusters and their widths: a line is divided into pieces that are
not empty, and each piece takes a cell at least. -/

namespace ModalEditor

class Segmentation where
  clusters : Text → List Text
  cells : Text → Nat
  flatten_clusters (t : Text) : (clusters t).flatten = t
  clusters_ne_nil {t g : Text} : g ∈ clusters t → g ≠ []
  cells_pos (g : Text) : 0 < cells g

instance : Segmentation where
  clusters := Text.graphemes
  cells g := max g.width 1
  flatten_clusters := Text.flatten_graphemes
  clusters_ne_nil := Text.graphemes_ne_nil
  cells_pos _ := Nat.lt_of_lt_of_le Nat.one_pos (Nat.le_max_right _ _)

variable [Segmentation]

namespace Text

def clusters (t : Text) : List Text :=
  Segmentation.clusters t

@[simp] theorem flatten_clusters (t : Text) : t.clusters.flatten = t :=
  Segmentation.flatten_clusters t

theorem clusters_ne_nil {t g : Text} (h : g ∈ t.clusters) : g ≠ [] :=
  Segmentation.clusters_ne_nil h

@[simp] theorem clusters_nil : clusters [] = [] := by
  refine List.eq_nil_iff_forall_not_mem.2 fun g hg => clusters_ne_nil hg ?_
  exact List.flatten_eq_nil_iff.1 (flatten_clusters []) g hg

end Text

namespace Cluster

def cells (g : Text) : Nat :=
  Segmentation.cells g

theorem cells_pos (g : Text) : 0 < cells g :=
  Segmentation.cells_pos g

end Cluster

end ModalEditor
