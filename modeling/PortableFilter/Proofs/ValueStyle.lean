import PortableFilter.ValueStyle
import PortableFilter.Proofs.Text

/-! # The texts of lists

In every style, a list of scalars is written as the texts of its items with separators between
them. -/

namespace PortableFilter.ValueStyle

variable {style : ValueStyle} {spell : Scalar → List Char}

/-- The text of a list that is not empty, given the texts of scalars. -/
theorem scalarsText_cons_toList (written : ∀ value, (style.scalarText value).toList = spell value)
    (value : Scalar) (values : List Scalar) :
    (style.scalarsText (value :: values)).toList =
      style.opening.toList ++ (spell value ++
        (values.flatMap (fun value => style.separator.toList ++ spell value) ++
          style.closing.toList)) := by
  rw [scalarsText, listText, List.map_cons, String.toList_append, String.toList_append,
    Text.intercalate_cons_toList, List.flatMap_map, written, List.append_assoc, List.append_assoc]
  simp only [written]

/-- Items of a list are written one by one. -/
theorem itemTexts_map_scalar (style : ValueStyle) (items : List Scalar) :
    style.itemTexts (items.map .scalar) = items.map style.scalarText := by
  induction items with
  | nil => rfl
  | cons item items ih => rw [List.map_cons, itemTexts, valueText, ih, List.map_cons]

theorem valueText_ofScalars (style : ValueStyle) (items : List Scalar) :
    style.valueText (.ofScalars items) = style.scalarsText items := by
  rw [Value.ofScalars, valueText, itemTexts_map_scalar, scalarsText]

end PortableFilter.ValueStyle
