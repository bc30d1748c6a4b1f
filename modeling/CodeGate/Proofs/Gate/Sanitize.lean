import CodeGate.Gate

/-!
# Sanitizing character by character

The two replacements of the gate are one: no entity holds a bracket, so what the first one writes is left
alone by the second, and each character is written on its own. The laws of sanitizing come from this: it may be
done piece by piece, it leaves no bracket, and so it changes nothing more when it is done again.

Section 8 of the specification lists the laws, and takes back the one that would have a second pass change
anything.
-/

namespace CodeGate.Gate

/-- A character as the gate writes it. -/
def entity (c : Char) : List Char :=
  if c = '<' then "&lt;".toList else if c = '>' then "&gt;".toList else [c]

theorem flatMap_eq_self {write : Char → List Char} {cs : List Char} (alone : ∀ c ∈ cs, write c = [c]) :
    cs.flatMap write = cs := by
  rw [List.flatMap_def, List.map_congr_left alone, ← List.flatMap_def, List.flatMap_singleton']

/-- Two replacements are one pass over the characters if the first writes nothing that the second replaces. -/
theorem replaceChar_replaceChar {c d : Char} {first : List Char} (kept : d ∉ first) (second cs : List Char) :
    replaceChar d second (replaceChar c first cs) =
      cs.flatMap fun x => if x = c then first else if x = d then second else [x] := by
  rw [replaceChar, replaceChar, List.flatMap_assoc]
  congr 1
  funext x
  split
  · exact flatMap_eq_self fun y inside => if_neg (ne_of_mem_of_not_mem inside kept)
  · rw [List.flatMap_singleton]

theorem sanitizeChars_eq (cs : List Char) : sanitizeChars cs = cs.flatMap entity :=
  replaceChar_replaceChar (by decide) _ cs

/-- The other bracket may as well be replaced first. -/
theorem replaceChar_swapped (cs : List Char) :
    replaceChar '<' "&lt;".toList (replaceChar '>' "&gt;".toList cs) = cs.flatMap entity := by
  rw [replaceChar_replaceChar (by decide)]
  congr 1
  funext c
  unfold entity
  by_cases greater : c = '>'
  · subst greater
    rfl
  · rw [if_neg greater, if_neg greater]

theorem toList_sanitize (raw : String) : (sanitize raw).toList = raw.toList.flatMap entity := by
  rw [sanitize, String.toList_ofList, sanitizeChars_eq]

theorem entity_of_ne {c : Char} (h : c ≠ '<') (h' : c ≠ '>') : entity c = [c] := by
  rw [entity, if_neg h, if_neg h']

theorem ne_of_mem_entity {c x : Char} (inside : x ∈ entity c) : x ≠ '<' ∧ x ≠ '>' := by
  by_cases less : c = '<'
  · rw [entity, if_pos less] at inside
    exact ⟨ne_of_mem_of_not_mem inside (by decide), ne_of_mem_of_not_mem inside (by decide)⟩
  by_cases greater : c = '>'
  · rw [entity, if_neg less, if_pos greater] at inside
    exact ⟨ne_of_mem_of_not_mem inside (by decide), ne_of_mem_of_not_mem inside (by decide)⟩
  rw [entity_of_ne less greater, List.mem_singleton] at inside
  exact inside ▸ ⟨less, greater⟩

theorem not_mem_flatMap_entity (cs : List Char) : '<' ∉ cs.flatMap entity ∧ '>' ∉ cs.flatMap entity := by
  simp only [List.mem_flatMap, not_exists, not_and]
  exact ⟨fun _ _ inside => (ne_of_mem_entity inside).1 rfl, fun _ _ inside => (ne_of_mem_entity inside).2 rfl⟩

/-- Characters stay as they are exactly if no bracket is among them. -/
theorem flatMap_entity_eq_self_iff {cs : List Char} : cs.flatMap entity = cs ↔ '<' ∉ cs ∧ '>' ∉ cs := by
  constructor
  · intro same
    have without := not_mem_flatMap_entity cs
    rwa [same] at without
  · rintro ⟨less, greater⟩
    exact flatMap_eq_self fun c inside =>
      entity_of_ne (ne_of_mem_of_not_mem inside less) (ne_of_mem_of_not_mem inside greater)

theorem sanitize_eq_self_iff {raw : String} : sanitize raw = raw ↔ '<' ∉ raw.toList ∧ '>' ∉ raw.toList := by
  rw [← String.toList_inj, toList_sanitize, flatMap_entity_eq_self_iff]

theorem not_mem_sanitize (raw : String) : '<' ∉ (sanitize raw).toList ∧ '>' ∉ (sanitize raw).toList := by
  rw [toList_sanitize]
  exact not_mem_flatMap_entity raw.toList

/-- **Sanitizing writes each character on its own.** The two replacements, in the gate's order or in the other
one, come to a single pass over the characters. So texts may be sanitized apart and joined then. What comes of it
holds no bracket, is left alone by a second pass, and is the text itself exactly if that held none. -/
theorem sanitizing_laws (s t : String) :
    replaceChar '>' "&gt;".toList (replaceChar '<' "&lt;".toList s.toList) = s.toList.flatMap entity ∧
      replaceChar '<' "&lt;".toList (replaceChar '>' "&gt;".toList s.toList) = s.toList.flatMap entity ∧
      (sanitize s).toList = s.toList.flatMap entity ∧
      sanitize (s ++ t) = sanitize s ++ sanitize t ∧
      ('<' ∉ (sanitize s).toList ∧ '>' ∉ (sanitize s).toList) ∧
      sanitize (sanitize s) = sanitize s ∧
      (sanitize s = s ↔ '<' ∉ s.toList ∧ '>' ∉ s.toList) := by
  have joined : sanitize (s ++ t) = sanitize s ++ sanitize t := by
    apply String.toList_inj.1
    simp only [toList_sanitize, String.toList_append, List.flatMap_append]
  have again : sanitize (sanitize s) = sanitize s := sanitize_eq_self_iff.2 (not_mem_sanitize s)
  exact ⟨sanitizeChars_eq s.toList, replaceChar_swapped s.toList, toList_sanitize s, joined,
    not_mem_sanitize s, again, sanitize_eq_self_iff⟩

end CodeGate.Gate
