import SiteSpiders.Dictionary.Detail
import SiteSpiders.Proofs.Text.Cutting

/-!
# The detailed meanings

The detailed meanings are cut with fixed widths out of the listing of a block's texts. The
first window begins with the blank after the first marker's comma and ends with the quote in
front of the second marker, which cleaning takes away again. The second window begins in the
same way and ends in front of the closing bracket. So the meanings are the quoted texts
between the markers, and the change of word class the quoted texts behind the second.
-/
namespace SiteSpiders.Dictionary

open Html Text

lemma meaningMarker_marker : Marker isInvisible meaningMarker.toList :=
  .of_all (by decide +kernel) (by decide +kernel)

lemma wordClassMarker_marker : Marker isInvisible wordClassMarker.toList :=
  .of_all (by decide +kernel) (by decide +kernel)

lemma wordClassMarker_apart : ¬wordClassMarker.toList <:+: meaningMarker.toList := by
  decide +kernel

/-- The width of a marker is that of its text, its closing quote and a comma. -/
theorem markerWidth_eq :
    markerWidth = meaningMarker.toList.length + 2 ∧
      markerWidth = wordClassMarker.toList.length + 2 := by
  decide +kernel

theorem normalize_apostrophe (cs : List Char) :
    Text.normalize (String.ofList (cs ++ ['\''])) = Text.normalize (String.ofList cs) := by
  simp [Text.normalize, normalizeList, plain]

lemma normalize_empty : Text.normalize (String.ofList []) = "" := by
  simp [Text.normalize, normalizeList, plain, cutAllMarkers, hasMarker]

/-- If the texts of the first hidden blocks have each marker as a text of its own, the first one not
in a text before it and the second not in a text before it, and the labels are there, then the
meaning is cleaned from the quoted texts between the markers, each with its divider behind a blank,
and the change of word class from the quoted texts behind the second marker, joined behind a blank,
and empty if there are none. -/
theorem detailed_between_markers {page : Document} {pre mid post : List String}
    (texts : (detailParagraphs page).flatMap Node.texts =
      pre ++ [meaningMarker] ++ mid ++ [wordClassMarker] ++ post)
    (clear : ∀ text ∈ pre, ¬meaningMarker.toList <:+: text.toList)
    (clear' : ∀ text ∈ pre ++ mid, ¬wordClassMarker.toList <:+: text.toList)
    (first : hasLabel (detailParagraphs page) 0 = true)
    (third : hasLabel (detailParagraphs page) 2 = true) :
    (detailed page).meaning = Text.normalize (String.ofList (' ' :: mid.flatMap fun text =>
        quoteWith isInvisible text.toList ++ [',', ' '])) ∧
      (detailed page).wordClass = if post = [] then "" else
        Text.normalize (String.ofList (' ' :: [',', ' '].intercalate
          (post.map fun text => quoteWith isInvisible text.toList))) := by
  have hclear : ∀ node ∈ pre.map String.toList, ¬meaningMarker.toList <:+: node := by
    simpa using clear
  have hclear' : ∀ node ∈ pre.map String.toList ++ meaningMarker.toList :: mid.map String.toList,
      ¬wordClassMarker.toList <:+: node := by
    have hmarked : ∀ text ∈ pre ++ meaningMarker :: mid,
        ¬wordClassMarker.toList <:+: text.toList := by
      intro text htext
      simp only [List.mem_append, List.mem_cons] at htext
      rcases htext with hpre | rfl | hmid
      · exact clear' text (by simp [hpre])
      · exact wordClassMarker_apart
      · exact clear' text (by simp [hmid])
    rw [← List.map_cons, ← List.map_append]
    exact List.forall_mem_map.mpr hmarked
  have hlisting : listingChars ((detailParagraphs page).flatMap Node.texts) =
      listingWith isInvisible (pre.map String.toList ++ meaningMarker.toList ::
        (mid.map String.toList ++ wordClassMarker.toList :: post.map String.toList)) := by
    rw [texts, listingChars]
    simp
  constructor
  · have hwindow := meaningMarker_marker.charWindow_between wordClassMarker_marker hclear hclear'
      (post.map String.toList)
    have hitems : dividedItems isInvisible (mid.map String.toList) =
        mid.flatMap fun text => quoteWith isInvisible text.toList ++ [',', ' '] := by
      simp [dividedItems, List.flatMap_map]
    simp only [detailed, detailedOf, first, if_true, meaningOf, hlisting, markerWidth_eq.1, hwindow,
      normalize_apostrophe, hitems]
  · have hwindow := wordClassMarker_marker.charWindow_behind hclear' (post.map String.toList)
    simp only [List.append_assoc, List.cons_append, List.map_eq_nil_iff, List.map_map,
      joinItems_eq_intercalate] at hwindow
    simp only [detailed, detailedOf, third, if_true, wordClassOf, hlisting, markerWidth_eq.2,
      hwindow]
    split_ifs
    · exact normalize_empty
    · rfl

/-- A page of a character with both markers, whose texts have an apostrophe and a line break. -/
def markedPage : Document :=
  parse ("<div class=\"cont_hzcx\"><div class=\"zi_text_content hide\"><p>一<b>详细字义</b>it's" ++
    "<b>名&#13;&#10;</b><b>词性变化</b>动<i>再</i></p></div></div>")

/-- The text with the apostrophe is quoted otherwise, which cleaning leaves, and the line break is
cut out together with its escapes. -/
theorem detailed_between_markers_sample :
    (detailed markedPage).meaning = " \"its\", 名, " ∧
      (detailed markedPage).wordClass = " 动, 再" := by
  have computed : (detailParagraphs markedPage).flatMap Node.texts =
        ["一"] ++ [meaningMarker] ++ ["it's", "名\r\n"] ++ [wordClassMarker] ++ ["动", "再"] ∧
      hasLabel (detailParagraphs markedPage) 0 = true ∧
      hasLabel (detailParagraphs markedPage) 2 = true := by
    decide +kernel
  obtain ⟨texts, first, third⟩ := computed
  obtain ⟨hmeaning, hwordClass⟩ := detailed_between_markers texts (by decide +kernel)
    (by decide +kernel) first third
  exact ⟨hmeaning.trans (by decide +kernel), hwordClass.trans (by decide +kernel)⟩

end SiteSpiders.Dictionary
