import Tearline.Library.Dict
import Tearline.Rules

/-!
# Scenarios and variants

A scenario is what the source system and the author state: documents, principals,
probes and the rule.  A variant is one index over it.  Both ways of building a
variant file every chunk under its own id, so a variant carries that fact.

Main definitions:

- Structure {lit}`Variant`: an index whose chunks are keyed by their ids.
- Definition {lit}`Variant.ofChunks`: the comprehension both loaders use.
- Definition {lit}`locatedSources`: the documents of a chunk that the source
  system holds.
-/

namespace Tearline

/-- The source system's side of a verification. -/
structure Scenario where
  slug : String
  documents : Dict String SourceDocument
  principals : Dict String Principal
  probes : List Probe
  rule : EntitlementRule

/-- The scenario holding listed documents and principals under their ids, as the
loader's comprehensions build it. -/
def Scenario.ofLists (slug : String) (documents : List SourceDocument)
    (principals : List Principal) (probes : List Probe) (rule : EntitlementRule) : Scenario where
  slug := slug
  documents := Dict.ofValues SourceDocument.id documents
  principals := Dict.ofValues Principal.id principals
  probes := probes
  rule := rule

/-- One index: its chunks by id, its enforcement model and its candidate limit. -/
structure Variant where
  name : String
  chunks : Dict String Chunk
  enforcement : String
  annLimit : Option Int
  keyed : chunks.KeyedBy Chunk.id

/-- The variant holding the chunks of a list, `{chunk.id: chunk for chunk in chunks}`. -/
def Variant.ofChunks (name : String) (chunks : List Chunk) (enforcement : String)
    (annLimit : Option Int) : Variant where
  name := name
  chunks := Dict.ofValues Chunk.id chunks
  enforcement := enforcement
  annLimit := annLimit
  keyed := Dict.keyedBy_ofValues Chunk.id chunks

/-- The chunks of an index have distinct ids. -/
theorem Variant.nodup_ids (variant : Variant) : (variant.chunks.values.map Chunk.id).Nodup := by
  rw [variant.keyed.map_values]
  exact variant.chunks.nodupKeys

/-- The documents a chunk names that the source system holds, one entry for each
id that is found. -/
def locatedSources (scenario : Scenario) (chunk : Chunk) : List SourceDocument :=
  chunk.sourceDocumentIds.filterMap scenario.documents.get?

end Tearline
