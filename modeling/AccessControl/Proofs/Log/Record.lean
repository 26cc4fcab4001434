import AccessControl.Log.Record
import AccessControl.Proofs.Failure.Results
import Mathlib.Data.List.Forall2
import Mathlib.Data.List.Nodup

/-!
# What a record hides

The fields of a record that is written with its secrets replaced, beside those of the same record
written as it is.  The message and every further field are redacted, `LogRecord.fields_redacted`;
the header and the text of an error are the same in both.
-/

namespace AccessControl

/-! ### Entries -/

/-- Putting a value under a key, with every value changed in a way that leaves the keys. -/
theorem map_putEntry {f : String × Value → String × Value} (hf : ∀ entry, (f entry).1 = entry.1)
    (key : String) (v : Value) (entries : List (String × Value)) :
  (putEntry key v entries).map f = putEntry key (f (key, v)).2 (entries.map f)
  := by
  have hpair : ∀ entry, f entry = (entry.1, (f entry).2) := fun entry => Prod.ext (hf entry) rfl
  induction entries with
  | nil =>
      rw [putEntry, List.map_singleton, hpair (key, v)]
      rfl
  | cons entry rest ih =>
      obtain ⟨k, b⟩ := entry
      rw [List.map_cons, hpair (k, b), putEntry, putEntry]
      by_cases hk : k = key
      · rw [if_pos hk, if_pos hk, List.map_cons, hpair (key, v)]
      · rw [if_neg hk, if_neg hk, List.map_cons, ih, hpair (k, b)]

/-- The keys after a value was put under one of them. -/
theorem keys_putEntry (key : String) (v : Value) (entries : List (String × Value)) :
  (putEntry key v entries).map Prod.fst
    = if key ∈ entries.map Prod.fst then entries.map Prod.fst else entries.map Prod.fst ++ [key]
  := by
  induction entries with
  | nil => rfl
  | cons entry rest ih =>
      obtain ⟨k, b⟩ := entry
      rw [putEntry]
      by_cases hk : k = key
      · simp [hk]
      · rw [if_neg hk, List.map_cons, ih, List.map_cons]
        by_cases hmem : key ∈ rest.map Prod.fst
        · rw [if_pos hmem, if_pos (List.mem_cons_of_mem _ hmem)]
        · rw [if_neg hmem, if_neg, List.cons_append]
          rw [List.mem_cons, not_or]
          exact ⟨Ne.symm hk, hmem⟩

theorem nodup_keys_putEntry (key : String) (v : Value) {entries : List (String × Value)}
    (h : (entries.map Prod.fst).Nodup) :
  ((putEntry key v entries).map Prod.fst).Nodup
  := by
  rw [keys_putEntry]
  split
  · exact h
  · next hkey =>
      rw [List.nodup_append]
      refine ⟨h, List.nodup_singleton key, ?_⟩
      rintro k hk _ hlast rfl
      rw [List.mem_singleton] at hlast
      exact hkey (hlast ▸ hk)

/-- Values under different keys may be put in either order, if one of the keys is there. -/
theorem putEntry_comm {key key' : String} (hne : key ≠ key') (v v' : Value)
    {entries : List (String × Value)} (h : key ∈ entries.map Prod.fst) :
  putEntry key' v' (putEntry key v entries) = putEntry key v (putEntry key' v' entries)
  := by
  induction entries with
  | nil => cases h
  | cons entry rest ih =>
      obtain ⟨k, b⟩ := entry
      by_cases hk : k = key
      · have hk' : k ≠ key' := fun h => hne (hk.symm.trans h)
        simp only [putEntry, if_pos hk, if_neg hk', if_neg hne]
      · have hrest : key ∈ rest.map Prod.fst := by
          obtain hfirst | hrest := List.mem_cons.mp h
          · exact absurd hfirst.symm hk
          · exact hrest
        by_cases hk' : k = key'
        · simp only [putEntry, if_neg hk, if_pos hk', if_neg (Ne.symm hne)]
        · simp only [putEntry, if_neg hk, if_neg hk', ih hrest]

/-! ### Further fields -/

/-- A value that is put under a key that is there takes the place of what stood under it. -/
theorem putEntry_eq_map {key : String} (v : Value) {entries : List (String × Value)}
    (hkeys : (entries.map Prod.fst).Nodup) (h : key ∈ entries.map Prod.fst) :
  putEntry key v entries = entries.map fun entry => if entry.1 = key then (key, v) else entry
  := by
  induction entries with
  | nil => cases h
  | cons entry rest ih =>
      obtain ⟨k, b⟩ := entry
      rw [List.map_cons, List.nodup_cons] at hkeys
      rw [putEntry, List.map_cons]
      by_cases hk : k = key
      · subst hk
        have hother : ∀ entry ∈ rest, (if entry.1 = k then (k, v) else entry) = entry :=
          fun entry hentry => if_neg fun hkey => hkeys.1 (List.mem_map.mpr ⟨entry, hentry, hkey⟩)
        rw [if_pos rfl, if_pos rfl, List.map_congr_left hother, List.map_id']
      · rw [if_neg hk, if_neg hk, ih hkeys.2 ((List.mem_cons.mp h).resolve_left (Ne.symm hk))]

/-- Values that differ under one key only are the same once a value was put under it. -/
theorem forall₂_putEntry {P : String × Value → String × Value → Prop} (hrefl : ∀ entry, P entry entry)
    (key : String) (v : Value) {entries others : List (String × Value)}
    (hkeys : (entries.map Prod.fst).Nodup)
    (h : List.Forall₂ (fun a b => a.1 = b.1 ∧ (a.1 = key ∨ P a b)) entries others) :
  List.Forall₂ (fun a b => a.1 = b.1 ∧ P a b) (putEntry key v entries) (putEntry key v others)
  := by
  induction h with
  | nil => exact .cons ⟨rfl, hrefl _⟩ .nil
  | @cons a b rest rest' hab hrest ih =>
      obtain ⟨k, x⟩ := a
      obtain ⟨k', y⟩ := b
      obtain ⟨rfl, hp⟩ := hab
      rw [List.map_cons, List.nodup_cons] at hkeys
      rw [putEntry, putEntry]
      by_cases hk : k = key
      · subst hk
        rw [if_pos rfl, if_pos rfl]
        have hother : ∀ c ∈ rest, c.1 ≠ k := fun c hc hkey =>
          hkeys.1 (List.mem_map.mpr ⟨c, hc, hkey⟩)
        refine .cons ⟨rfl, hrefl _⟩ (((List.forall₂_and_left _ _).mpr ⟨hother, hrest⟩).imp ?_)
        rintro c d ⟨hne, hcd, hp⟩
        exact ⟨hcd, hp.resolve_left hne⟩
      · rw [if_neg hk, if_neg hk]
        exact .cons ⟨rfl, hp.resolve_left hk⟩ (ih hkeys.2)

/-- The preview of a value with its secrets replaced is the redacted preview. -/
theorem Redaction.logText_redacted (v : Value) (limit : Int) :
  logText v limit true = redact (logText v limit false)
  := by
  rw [logText, logText]
  simp only [if_true, Bool.false_eq_true, if_false]

namespace LogRecord

/-- A host gives the record a further field of that name. -/
def adds (r : LogRecord) (name : String) : Bool :=
  !reserved.contains name && (r.extra.map Prod.fst).contains name

/-- An entry of a record with its secrets replaced: they are in the message and in the further
fields. -/
def redactEntry (r : LogRecord) (entry : String × Value) : String × Value :=
  if entry.1 = "message" ∨ r.adds entry.1 = true then
    match entry.2 with
    | .text s => (entry.1, .text (Redaction.redact s))
    | v => (entry.1, v)
  else entry

variable (r : LogRecord) (layout : LogLayout)

theorem redactEntry_key (entry : String × Value) :
  (r.redactEntry entry).1 = entry.1
  := by
  rw [redactEntry]
  split
  · split <;> rfl
  · rfl

theorem redactEntry_text {name : String} (h : name = "message" ∨ r.adds name = true) (s : String) :
  r.redactEntry (name, .text s) = (name, .text (Redaction.redact s))
  := if_pos h

theorem redactEntry_other {name : String} (h : name ≠ "message") (h' : r.adds name = false)
    (v : Value) :
  r.redactEntry (name, v) = (name, v)
  := by
  rw [redactEntry, if_neg]
  rintro (hname | hadds)
  · exact h hname
  · rw [h'] at hadds
    cases hadds

/-- The entries with some further fields, written as they are and with their secrets replaced. -/
theorem map_addFields (extra entries : List (String × Value))
    (hadds : ∀ name, reserved.contains name = false → name ∈ extra.map Prod.fst →
      r.adds name = true) :
  (extra.foldl (addField { layout with redacted := false }) entries).map r.redactEntry
    = extra.foldl (addField { layout with redacted := true }) (entries.map r.redactEntry)
  := by
  induction extra generalizing entries with
  | nil => rfl
  | cons entry rest ih =>
      obtain ⟨name, v⟩ := entry
      rw [List.foldl_cons, List.foldl_cons, ih]
      · congr 1
        cases hreserved : reserved.contains name with
        | true => simp only [addField, hreserved, if_true]
        | false =>
            have hname := hadds name hreserved List.mem_cons_self
            simp only [addField, hreserved, Bool.false_eq_true, if_false]
            rw [map_putEntry r.redactEntry_key, r.redactEntry_text (.inr hname),
              Redaction.logText_redacted]
      · exact fun n hn hmem => hadds n hn (List.mem_cons_of_mem _ hmem)

/-- Further fields hide what stood under their names before. -/
theorem addFields_congr (extra : List (String × Value)) {entries others : List (String × Value)}
    (hkeys : (entries.map Prod.fst).Nodup)
    (h : List.Forall₂ (fun a b => a.1 = b.1 ∧
      (a = b ∨ reserved.contains a.1 = false ∧ a.1 ∈ extra.map Prod.fst)) entries others) :
  extra.foldl (addField layout) entries = extra.foldl (addField layout) others
  := by
  induction extra generalizing entries others with
  | nil =>
      rw [List.foldl_nil, List.foldl_nil, ← List.forall₂_eq_eq_eq]
      exact h.imp fun a b hab => hab.2.resolve_right (by simp)
  | cons entry rest ih =>
      obtain ⟨name, v⟩ := entry
      rw [List.foldl_cons, List.foldl_cons]
      cases hreserved : reserved.contains name with
      | true =>
          simp only [addField, hreserved, if_true]
          refine ih hkeys (h.imp ?_)
          rintro a b ⟨hab, hequal | ⟨hname, hmem⟩⟩
          · exact ⟨hab, .inl hequal⟩
          · refine ⟨hab, .inr ⟨hname, (List.mem_cons.mp hmem).resolve_left ?_⟩⟩
            rintro hfirst
            rw [hfirst, hreserved] at hname
            cases hname
      | false =>
          simp only [addField, hreserved, Bool.false_eq_true, if_false]
          apply ih (nodup_keys_putEntry _ _ hkeys)
          refine forall₂_putEntry (fun a => .inl rfl) name _ hkeys (h.imp ?_)
          rintro a b ⟨hab, hequal | ⟨hname, hmem⟩⟩
          · exact ⟨hab, .inr (.inl hequal)⟩
          · obtain hfirst | hrest := List.mem_cons.mp hmem
            · exact ⟨hab, .inl hfirst⟩
            · exact ⟨hab, .inr (.inr ⟨hname, hrest⟩)⟩

/-- No further field takes the place of the message. -/
theorem addFields_message (m : Value) (extra : List (String × Value))
    {entries : List (String × Value)} (h : "message" ∈ entries.map Prod.fst) :
  extra.foldl (addField layout) (putEntry "message" m entries)
    = putEntry "message" m (extra.foldl (addField layout) entries)
  := by
  induction extra generalizing entries with
  | nil => rfl
  | cons entry rest ih =>
      obtain ⟨name, v⟩ := entry
      rw [List.foldl_cons, List.foldl_cons]
      cases hreserved : reserved.contains name with
      | true =>
          simp only [addField, hreserved, if_true]
          exact ih h
      | false =>
          have hne : "message" ≠ name := by
            rintro rfl
            exact absurd hreserved (by decide)
          simp only [addField, hreserved, Bool.false_eq_true, if_false]
          rw [putEntry_comm hne _ _ h, ih]
          rw [keys_putEntry]
          split
          · exact h
          · exact List.mem_append_left _ h

/-! ### Fields -/

theorem nodup_keys_ownFields (time message : String) (exception : Option String) :
  ((r.ownFields time message exception).map Prod.fst).Nodup
  := by
  rw [ownFields]
  cases r.tag? <;> cases exception <;> simp [tagKey]

/-- The names of the fields that say when and where a record was made. -/
def header : List String := ["timestamp", "level", "logger", tagKey]

theorem mem_ownFields {time message : String} {exception : Option String} {entry : String × Value}
    (h : entry ∈ r.ownFields time message exception) :
  entry.1 ∈ header ∨ entry = ("message", .text message)
    ∨ ∃ s, exception = some s ∧ entry = ("exception", .text s)
  := by
  simp only [ownFields, List.mem_append, List.mem_cons, List.not_mem_nil, or_false,
    Option.mem_toList, Option.map_eq_some_iff] at h
  obtain ((rfl | rfl | rfl | rfl) | ⟨tag, -, rfl⟩) | ⟨s, hs, rfl⟩ := h
  · exact .inl (by simp [header])
  · exact .inl (by simp [header])
  · exact .inl (by simp [header])
  · exact .inr (.inl rfl)
  · exact .inl (by simp [header])
  · exact .inr (.inr ⟨s, hs, rfl⟩)

/-- All fields of a record once its time, its message and its error are known. -/
theorem fields_eq :
  r.fields layout
    = (do
      let time ← r.timeText layout
      let message ← r.messageText
      let exception ← r.exception
      let all := r.extra.foldl (addField layout) (r.ownFields time message exception)
      return if layout.redacted then putEntry "message" (.text (Redaction.redact message)) all
        else all)
  := rfl

/-- The fields with their secrets replaced, once the time, the message and the error are known, from
the fields as they are. -/
theorem map_allFields (time message : String) (exception : Option String) :
  (r.extra.foldl (addField { layout with redacted := false })
      (r.ownFields time message exception)).map r.redactEntry
    = putEntry "message" (.text (Redaction.redact message))
      (r.extra.foldl (addField { layout with redacted := true })
        (r.ownFields time message exception))
  := by
  let own := r.ownFields time message exception
  have hmessage : "message" ∈ own.map Prod.fst := by simp [own, ownFields]
  have hkeys : ((own.map r.redactEntry).map Prod.fst).Nodup := by
    rw [List.map_map]
    have hfst : Prod.fst ∘ r.redactEntry = Prod.fst := funext r.redactEntry_key
    rw [hfst]
    exact r.nodup_keys_ownFields time message exception
  rw [r.map_addFields layout r.extra]
  · rw [← addFields_message _ _ _ hmessage]
    apply addFields_congr _ _ hkeys
    rw [putEntry_eq_map _ (r.nodup_keys_ownFields time message exception) hmessage,
      List.forall₂_map_left_iff, List.forall₂_map_right_iff, List.forall₂_same]
    intro entry hentry
    rw [r.redactEntry_key]
    by_cases hname : entry.1 = "message"
    · have hown : entry = ("message", .text message) := by
        obtain hheader | hown | ⟨s, -, rfl⟩ := r.mem_ownFields hentry
        · rw [hname] at hheader
          exact absurd hheader (by decide)
        · exact hown
        · exact absurd hname (by simp)
      rw [hown, if_pos rfl, r.redactEntry_text (.inl rfl)]
      exact ⟨rfl, .inl rfl⟩
    · rw [if_neg hname]
      refine ⟨rfl, ?_⟩
      cases hadds : r.adds entry.1 with
      | false => exact .inl (r.redactEntry_other hname hadds entry.2)
      | true =>
          rw [adds, Bool.and_eq_true, Bool.not_eq_true', List.contains_iff_mem] at hadds
          exact .inr hadds
  · intro name hname hmem
    rw [adds, hname]
    simpa using hmem

/-- A record written with its secrets replaced has the fields of the same record as it is, each
redacted on its own; where one of them cannot be written, neither can the other. -/
theorem fields_redacted :
  r.fields { layout with redacted := true }
    = (r.fields { layout with redacted := false }).map (List.map r.redactEntry)
  := by
  have htime : r.timeText { layout with redacted := true }
      = r.timeText { layout with redacted := false } := rfl
  rw [fields_eq, fields_eq, htime]
  cases r.timeText { layout with redacted := false } with
  | error e => rfl
  | ok time =>
      cases r.messageText with
      | error e => rfl
      | ok message =>
          cases r.exception with
          | error e => rfl
          | ok exception => exact congrArg _ (r.map_allFields layout time message exception).symm

/-- An entry is found among the others after a value was put under a key, or it is that value. -/
theorem eq_or_mem_of_mem_putEntry {key : String} {v : Value} {entries : List (String × Value)}
    {entry : String × Value} (h : entry ∈ putEntry key v entries) :
  entry = (key, v) ∨ entry ∈ entries
  := by
  induction entries with
  | nil => exact .inl (List.mem_singleton.mp h)
  | cons first rest ih =>
      obtain ⟨k, b⟩ := first
      rw [putEntry] at h
      split at h
      · exact (List.mem_cons.mp h).imp_right (List.mem_cons_of_mem _)
      · obtain rfl | hrest := List.mem_cons.mp h
        · exact .inr List.mem_cons_self
        · exact (ih hrest).imp_right (List.mem_cons_of_mem _)

/-- A field is one that the record has of its own, or the preview of a value that a host gave. -/
theorem mem_addFields {extra entries : List (String × Value)} {entry : String × Value}
    (h : entry ∈ extra.foldl (addField layout) entries) :
  entry ∈ entries ∨ reserved.contains entry.1 = false ∧ entry.1 ∈ extra.map Prod.fst
    ∧ ∃ s, entry.2 = .text s
  := by
  induction extra generalizing entries with
  | nil => exact .inl h
  | cons given rest ih =>
      rw [List.foldl_cons] at h
      obtain hadded | ⟨hname, hmem, htext⟩ := ih h
      · rw [addField] at hadded
        split at hadded
        · exact .inl hadded
        · next hreserved =>
            obtain rfl | hentry := eq_or_mem_of_mem_putEntry hadded
            · exact .inr ⟨by simpa using hreserved, List.mem_cons_self, _, rfl⟩
            · exact .inl hentry
      · exact .inr ⟨hname, List.mem_cons_of_mem _ hmem, htext⟩

/-- What a record written with its secrets replaced does to a field: it redacts the message and the
further fields, and leaves the header and the text of an error. -/
theorem redactEntry_cases {fields : List (String × Value)}
    (h : r.fields { layout with redacted := false } = .ok fields) {entry : String × Value}
    (hentry : entry ∈ fields) :
  (∃ s, entry.2 = .text s ∧ r.redactEntry entry = (entry.1, .text (Redaction.redact s)))
    ∨ entry.1 ∈ header
    ∨ ∃ s, r.exception = .ok (some s) ∧ entry = ("exception", .text s)
      ∧ r.redactEntry entry = entry
  := by
  have hredacted : ∀ s, (entry.1 = "message" ∨ r.adds entry.1 = true) → entry.2 = .text s →
      r.redactEntry entry = (entry.1, .text (Redaction.redact s)) := by
    intro s hname htext
    obtain ⟨name, v⟩ := entry
    obtain rfl : v = .text s := htext
    exact r.redactEntry_text hname s
  rw [fields_eq] at h
  obtain ⟨time, -, h⟩ := bind_eq_ok.mp h
  obtain ⟨message, -, h⟩ := bind_eq_ok.mp h
  obtain ⟨exception, hexception, h⟩ := bind_eq_ok.mp h
  cases h
  obtain hown | ⟨hname, hmem, s, hs⟩ := mem_addFields _ hentry
  · obtain hheader | rfl | ⟨s, rfl, rfl⟩ := r.mem_ownFields hown
    · exact .inr (.inl hheader)
    · exact .inl ⟨message, rfl, hredacted message (.inl rfl) rfl⟩
    · cases hadds : r.adds "exception" with
      | true => exact .inl ⟨s, rfl, hredacted s (.inr hadds) rfl⟩
      | false => exact .inr (.inr ⟨s, hexception, rfl, r.redactEntry_other (by decide) hadds _⟩)
  · have hadds : r.adds entry.1 = true := by
      rw [adds, hname]
      simpa using hmem
    exact .inl ⟨s, hs, hredacted s (.inr hadds) hs⟩

/-- **A record hides what it says.**  Written as JSON with its secrets replaced, a record has the
fields of the same record as it is, each redacted on its own.  The message and every further field
are redacted; only the header, and the text of an error if there is one, are the same in both. -/
theorem format_redacted (datePattern : String) (r : LogRecord) :
  let plain := r.fields ⟨true, false, datePattern⟩
  r.format ⟨true, false, datePattern⟩
      = plain.map (fun fields => (Value.mapping fields).recordText)
    ∧ r.format ⟨true, true, datePattern⟩
      = plain.map (fun fields => (Value.mapping (fields.map r.redactEntry)).recordText)
    ∧ ∀ fields, plain = .ok fields → ∀ entry ∈ fields,
      (∃ s, entry.2 = .text s ∧ r.redactEntry entry = (entry.1, .text (Redaction.redact s)))
        ∨ entry.1 ∈ header
        ∨ ∃ s, r.exception = .ok (some s) ∧ entry = ("exception", .text s)
          ∧ r.redactEntry entry = entry
  := by
  intro plain
  refine ⟨rfl, ?_, fun fields h entry hentry => r.redactEntry_cases ⟨true, false, datePattern⟩ h hentry⟩
  rw [format, r.fields_redacted ⟨true, true, datePattern⟩]
  change (plain.map _).map _ = _
  cases plain <;> rfl

/-- The text of an error is written as it is, with the password in it. -/
theorem format_error_shown :
  let r : LogRecord :=
    { level := .text "ERROR", source := .text "host", message := .text "failed"
      exception := .ok (some "ValueError: password=hunter2") }
  (r.format ⟨true, true, "-"⟩).toOption
      = some ("\x7b\"timestamp\": \"-\", \"level\": \"ERROR\", \"logger\": \"host\", "
        ++ "\"message\": \"failed\", \"exception\": \"ValueError: password=hunter2\"\x7d")
    ∧ Redaction.redact "ValueError: password=hunter2" = "ValueError: [REDACTED]"
  := by
  constructor
  · decide +kernel
  · decide +kernel

end LogRecord

end AccessControl
