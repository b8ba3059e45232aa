/-
  TimedTrials/Proofs/Picture/Entities.lean
  ========================================
  **Entities are decoded once.**

  Decoding goes over the text once for each kind of entity. All entities begin with an ampersand
  and have no other one, so that none begins inside of another; and of the characters that they
  stand for only the ampersand is part of an entity, and it comes last. So decoding comes to a
  single pass from left to right that never looks at what it has put in (`decodeEntities_once`).
-/
import TimedTrials.Picture.Markup
import TimedTrials.Proofs.Text.InTurn

namespace TimedTrials.Markup

open Text (Apart OnePass Orderly replaceEach replaceInTurn)

/-- The common entities by name, each with the one character it stands for. -/
def named : List (String × Char) :=
  [("&nbsp;", ' '), ("&lt;", '<'), ("&gt;", '>'), ("&quot;", '"'), ("&#39;", '\''), ("&amp;", '&')]

/-- The entities as patterns, each with the text that it gives way to. -/
def namedEntries : List (List Char × List Char) := named.map fun e => (e.1.toList, [e.2])

theorem decodeEntities_eq_replaceInTurn (cs : List Char) :
    decodeEntities cs = replaceInTurn namedEntries cs := rfl

/-- No entity begins in a later one, and none puts in a character of a later one. -/
theorem orderly_namedEntries : Orderly namedEntries := by decide

/-- **Entities are decoded once.** Decoding one kind of entity after the other is replacing all of
    them at once, in one pass from left to right in which an entity gives way to its character and
    is left behind, and any other character stays; nothing else is such a pass. -/
theorem decodeEntities_once (cs : List Char) :
    decodeEntities cs = replaceEach namedEntries cs ∧
      ∀ ds, OnePass namedEntries cs ds ↔ ds = decodeEntities cs := by
  have horderly := orderly_namedEntries
  rw [decodeEntities_eq_replaceInTurn]
  exact ⟨horderly.replaceInTurn_eq_replaceEach cs, fun ds => horderly.onePass_iff⟩

/-- An ampersand that is decoded does not begin an entity, as it would if it came first. -/
example : decodeEntities "&amp;lt;&lt;lt;".toList = "&lt;<lt;".toList ∧
    replaceInTurn namedEntries.reverse "&amp;lt;&lt;lt;".toList = "<<lt;".toList := by decide

end TimedTrials.Markup
