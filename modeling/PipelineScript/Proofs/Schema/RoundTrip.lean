/-
# Messages that are written are read back

Questions, replies and everything in them are written under one set of names,
and entries with nothing to say are left out; they are read under several names,
with defaults.  Whatever is written is read as it was (`RoundTrips`), both by
itself and as the content of a tagged record.

So it does not matter how something was written when it was read first: under a
second name, as a number instead of its text, or not at all.  Once it has been
written and read again it means what it meant.

A record is read member by member.  Each member stands there once, under one of
its names, and its own round trip says what is read (`Member.read_of_once`).
-/
import PipelineScript.Proofs.Table.RoundTrip
import PipelineScript.Schema.Message

namespace PipelineScript

open Json

/-- What is written is read as it was, and to write and read once more changes
nothing. -/
structure RoundTrips {α : Type} (encode : α → Json) (decode : Decoder α) : Prop where
  readBack : ∀ s a, decode s (encode a) = .ok a
  again : ∀ s v, ((decode s v).bind fun a => decode s (encode a)) = decode s v

namespace RoundTrips

variable {α : Type} {encode : α → Json} {decode : Decoder α}

theorem of_readBack (h : ∀ s a, decode s (encode a) = .ok a) : RoundTrips encode decode where
  readBack := h
  again s v := by
    cases hv : decode s v with
    | error cause => rfl
    | ok a => exact h s a

theorem text : RoundTrips .str .text :=
  of_readBack fun _ _ => rfl

theorem list (h : RoundTrips encode decode) :
    RoundTrips (fun as => .arr (as.map encode)) decode.list := by
  refine of_readBack ?_
  intro s as
  exact items_map (h.readBack s) as

end RoundTrips

/-! ## Graphs -/

theorem Node.roundTrips : RoundTrips Node.encode Node.decode := by
  refine .of_readBack ?_
  intro s n
  have ports := RoundTrips.text.list.readBack s
  have inputs : (portsMember 3 "inputs").read s (.entries n.encode.entries) = .ok n.inputs :=
    Member.read_of_once (v := .ofStrings n.inputs) rfl rfl (ports n.inputs)
  have outputs : (portsMember 4 "outputs").read s (.entries n.encode.entries) = .ok n.outputs :=
    Member.read_of_once (v := .ofStrings n.outputs) rfl rfl (ports n.outputs)
  show Reading.toExcept (_ <*> (portsMember 3 "inputs").read s (.entries n.encode.entries) <*>
    (portsMember 4 "outputs").read s (.entries n.encode.entries)) = .ok n
  rw [inputs, outputs]
  rfl

theorem Edge.roundTrips : RoundTrips Edge.encode Edge.decode :=
  .of_readBack fun _ _ => rfl

theorem Graph.roundTrips : RoundTrips Graph.encode Graph.decode := by
  refine .of_readBack ?_
  intro s g
  have nodes : Member.read
      { position := 0, name := "nodes", decode := .list Node.decode, absent := some [],
        omitted := some [] } s (.entries g.encode.entries) = .ok g.nodes :=
    Member.read_of_once (v := .arr (g.nodes.map Node.encode)) rfl rfl
      (Node.roundTrips.list.readBack s g.nodes)
  have edges : Member.read
      { position := 1, name := "edges", decode := .list Edge.decode, absent := some [],
        omitted := some [] } s (.entries g.encode.entries) = .ok g.edges :=
    Member.read_of_once (v := .arr (g.edges.map Edge.encode)) rfl rfl
      (Edge.roundTrips.list.readBack s g.edges)
  show Reading.toExcept (mk <$> Member.read _ s (.entries g.encode.entries) <*>
    Member.read _ s (.entries g.encode.entries)) = .ok g
  rw [nodes, edges]
  rfl

/-! ## Messages -/

theorem Column.roundTrips : RoundTrips Column.encode Column.decode :=
  .of_readBack fun _ _ => rfl

theorem Connection.roundTrips : RoundTrips Connection.encode Connection.decode :=
  .of_readBack fun _ _ => rfl

theorem Failure.roundTrips : RoundTrips Failure.encode Failure.decode := by
  refine .of_readBack ?_
  rintro s ⟨kind, message⟩
  cases kind <;> rfl

theorem Question.decodeUpstream_entries (s : Standing) (g : Graph) (target : String)
    (script previewVariable : Option String) :
    decodeUpstream s (.obj ([("pipeline", g.encode)] ++ entry? "previewVariable" previewVariable ++
      entry? "script" script ++ [("targetNodeId", .str target)])) =
        .ok (.upstream g target script previewVariable) := by
  have pipeline := Graph.roundTrips.readBack s g
  cases script <;> cases previewVariable
  all_goals
    show Reading.toExcept (upstream <$> Member.read _ s (.entries _) <*> _ <*> _ <*> _) = _
    rw [Member.read_of_once (v := g.encode) rfl rfl pipeline]
    rfl

theorem Question.roundTrips : RoundTrips Question.encode Question.decode := by
  refine .of_readBack ?_
  intro s q
  cases q with
  | upstream g target script previewVariable =>
      have content := decodeUpstream_entries .tagged g target script previewVariable
      cases script <;> cases previewVariable <;> exact content
  | table connection tableName probeQuery =>
      rfl

theorem Reply.roundTrips : RoundTrips Reply.encode Reply.decode := by
  refine .of_readBack ?_
  intro s r
  cases r with
  | ok columns =>
      have options := Column.roundTrips.list.readBack .tagged columns
      show Reading.toExcept (ok <$> Member.read _ .tagged (.entries _)) = _
      rw [Member.read_of_once (v := encodeColumns columns) rfl rfl options]
      rfl
  | error failure =>
      have content := Failure.roundTrips.readBack .tagged failure
      show Reading.toExcept (error <$> Member.read _ .tagged (.entries _)) = _
      rw [Member.read_of_once (v := failure.encode) rfl rfl content]
      rfl

/-! ## Rows -/

theorem VariableRow.roundTrips : RoundTrips VariableRow.encode VariableRow.decode :=
  .of_readBack fun s r => @decode_encode .environment r s

theorem MappingRow.roundTrips : RoundTrips MappingRow.encode MappingRow.decode :=
  .of_readBack fun s r => @decode_encode .mappings r s

/-- **The wire format loses nothing.**  Questions, replies, graphs, columns,
connections and both kinds of rows are read as they were written, and whatever
was read from elsewhere means the same once it has been written and read again. -/
theorem wire_roundTrips :
    RoundTrips Question.encode Question.decode ∧ RoundTrips Reply.encode Reply.decode ∧
      RoundTrips Graph.encode Graph.decode ∧ RoundTrips Column.encode Column.decode ∧
      RoundTrips Connection.encode Connection.decode ∧
      RoundTrips VariableRow.encode VariableRow.decode ∧
      RoundTrips MappingRow.encode MappingRow.decode :=
  ⟨Question.roundTrips, Reply.roundTrips, Graph.roundTrips, Column.roundTrips,
    Connection.roundTrips, VariableRow.roundTrips, MappingRow.roundTrips⟩

/-! A number for a key, a second name and two fields that are left out: all of it
is gone once the row has been written. -/

example :
    (MappingRow.decode .free (.obj [("key", .int 3), ("outputName", .str "total")])).map
        MappingRow.encode =
      .ok (.obj [("input", .null), ("key", .str "3"), ("type", .str ""),
        ("value", .str "total")]) :=
  rfl

end PipelineScript
