import BucketQuery.Program.Run
import BucketQuery.Proofs.Program.Layer
import BucketQuery.Proofs.Program.Path

set_option autoImplicit false

/-! # Loading settings

Where the settings of a run come from. The files of the overlay and the profile set what their
trees say, key by key, the overrides lie on top, and each setting is chosen on its own from the
layers in this order (`Settings.ChosenFrom`). With files that can be read, there are settings unless
the file that the overrides name is missing, the chosen bucket is none or blank, or the chosen
timeout is zero (`Settings.loadFrom_layers`).
-/

namespace BucketQuery

/-! ## Files at paths -/

namespace FileState

/-- What a file sets. One that is not there sets nothing. -/
def layer : FileState → Layer
  | .text content => ((Written.read? content).map Layer.said).getD {}
  | _ => {}

/-- A file that is not there, or can be read and holds a layer. -/
def Usable : FileState → Prop
  | .absent => True
  | .unreadable => False
  | .text content => ∃ file, LayerFile.read? content = some file

end FileState

namespace Settings

/-- What is found of the overlay: the file that the overrides name, or else the local one. -/
def overlayState (place : Place) (overrides : Overrides) (look : String → FileState) : FileState :=
  match overrides.file with
  | some path => look (Path.expand place path)
  | none => look fileName

/-- What is found of the profile. There is none without a home directory. -/
def profileState (place : Place) (look : String → FileState) : FileState :=
  match profilePath place with
  | some path => look path
  | none => .absent

/-- The settings, given what is found at each path. -/
def loadFrom (place : Place) (overrides : Overrides) (look : String → FileState) :
    Except SettingsError Settings :=
  load place overrides (profileState place look) (overlayState place overrides look)

/-- The layers of a run, the highest first. -/
def layers (place : Place) (overrides : Overrides) (look : String → FileState) : List Layer :=
  [overrides.layer, (overlayState place overrides look).layer, (profileState place look).layer]

theorem look_overlayPath (place : Place) (overrides : Overrides) (look : String → FileState) :
    look (overlayPath place overrides) = overlayState place overrides look := by
  unfold overlayPath overlayState
  cases overrides.file with
  | none => rfl
  | some path => rfl

end Settings

/-- An invocation goes on with the settings that are loaded from the files, and without any it
fails. -/
theorem Run.invoke_eq (world : Surroundings Id) (place : Place) (filter : LogFilter) (err : String)
    (invocation : Invocation) :
    ∃ err' : String, invoke world place filter err invocation =
      match Settings.loadFrom place invocation.overrides world.look with
      | .error e => Ending.failure (.settings e) err'
      | .ok settings =>
        match execute world settings invocation.command with
        | .error e => Ending.failure e err'
        | .ok output => Ending.success output.screen err' := by
  have hprofile : lookAt world (Settings.profilePath place) =
      Settings.profileState place world.look := by
    unfold lookAt Settings.profileState
    cases Settings.profilePath place with
    | none => rfl
    | some path => rfl
  have hoverlay := Settings.look_overlayPath place invocation.overrides world.look
  unfold invoke Settings.loadFrom
  simp only [hprofile, hoverlay]
  -- both sides now read the same two files, and what is in them no longer matters
  generalize Settings.profileState place world.look = profile
  generalize Settings.overlayState place invocation.overrides world.look = overlay
  refine ⟨err ++ String.join (if filter.admits unknownMessage then
    (Settings.unknownMembers place invocation.overrides profile overlay).map unknownReport
    else []), ?_⟩
  cases hload : Settings.load place invocation.overrides profile overlay with
  | error e =>
      simp only [Bind.bind, hload]
      rfl
  | ok settings =>
      simp only [Bind.bind, hload]
      cases execute world settings invocation.command with
      | error e => rfl
      | ok output => rfl

namespace Settings

/-! ## Choosing -/

/-- **Settings chosen from layers**: each one is that of the highest layer that sets it, or else the
default. The bucket is freed of blanks around it, and the path of the data is expanded. -/
structure ChosenFrom (place : Place) (layers : List Layer) (settings : Settings) : Prop where
  bucket : (layers.findSome? Layer.bucket).map trimBlanks = some settings.bucket
  gateway : settings.shape.gateway = (layers.findSome? Layer.gateway).getD false
  defaultIdField :
    settings.shape.defaultIdField = (layers.findSome? Layer.defaultIdField).getD true
  endpoint :
    settings.service.endpoint = (layers.findSome? (·.service.endpoint)).getD defaultEndpoint
  username : settings.service.username = layers.findSome? (·.service.username)
  password : settings.service.password = layers.findSome? (·.service.password)
  timeout : settings.timeout = (layers.findSome? (·.service.timeout)).getD defaultTimeout
  data : settings.data = (layers.findSome? Layer.data).map (Path.expand place)

/-- **Layers that no settings can be chosen from**: the chosen bucket is none or blank, or the
chosen timeout is zero. -/
def Unresolvable (layers : List Layer) : Prop :=
  (∀ name, layers.findSome? Layer.bucket = some name → trimBlanks name = "") ∨
    layers.findSome? (·.service.timeout) = some 0

theorem bucket?_eq_none_iff (layer : Layer) :
    bucket? layer = none ↔ ∀ name, layer.bucket = some name → trimBlanks name = "" := by
  unfold bucket?
  cases layer.bucket with
  | none => simp
  | some name => simp [Option.filter]

theorem map_trimBlanks_of_bucket? {layer : Layer} {bucket : String}
    (h : bucket? layer = some bucket) : layer.bucket.map trimBlanks = some bucket :=
  (Option.filter_eq_some_iff.mp h).1

theorem getD_timeout_eq_zero_iff (timeout : Option UInt64) :
    timeout.getD defaultTimeout = 0 ↔ timeout = some 0 := by
  cases timeout with
  | none => decide
  | some seconds => rw [Option.getD_some, Option.some_inj]

/-- **What resolving can do**: refuse for want of a bucket, refuse a timeout of zero, or take each
setting or its default. -/
theorem resolve_cases (place : Place) (layer : Layer) :
    (bucket? layer = none ∧ resolve place layer = .error .bucketAbsent) ∨
    (layer.service.timeout = some 0 ∧ resolve place layer = .error .timeoutZero) ∨
    ∃ bucket, bucket? layer = some bucket ∧ layer.service.timeout ≠ some 0 ∧
      resolve place layer = .ok
        { bucket := bucket
          shape := ⟨layer.gateway.getD false, layer.defaultIdField.getD true⟩
          service :=
            { endpoint := layer.service.endpoint.getD defaultEndpoint
              username := layer.service.username
              password := layer.service.password }
          timeout := layer.service.timeout.getD defaultTimeout
          data := layer.data.map (Path.expand place) } := by
  unfold resolve
  cases hbucket : bucket? layer with
  | none => exact .inl ⟨rfl, rfl⟩
  | some bucket =>
      by_cases htimeout : layer.service.timeout = some 0
      · refine .inr (.inl ⟨htimeout, ?_⟩)
        exact if_pos ((getD_timeout_eq_zero_iff _).mpr htimeout)
      · refine .inr (.inr ⟨bucket, rfl, htimeout, ?_⟩)
        exact if_neg (mt (getD_timeout_eq_zero_iff _).mp htimeout)

/-- A stack of layers is resolved by choosing each setting. -/
theorem chosenFrom_of_resolve {place : Place} {layers : List Layer} {settings : Settings}
    (h : resolve place (Layer.stack layers) = .ok settings) : ChosenFrom place layers settings := by
  have hchosen {α : Type} {setting : Layer → Option α} (hsetting : Layer.IsSetting setting) :=
    hsetting.stack_eq_findSome? layers
  rcases resolve_cases place (Layer.stack layers) with ⟨_, herror⟩ | ⟨_, herror⟩ |
    ⟨bucket, hbucket, _, hok⟩
  · cases herror.symm.trans h
  · cases herror.symm.trans h
  · cases hok.symm.trans h
    constructor
    · rw [← hchosen ⟨rfl, fun _ _ => rfl⟩]
      exact map_trimBlanks_of_bucket? hbucket
    all_goals rw [← hchosen ⟨rfl, fun _ _ => rfl⟩]

/-- A stack of layers is refused exactly when it is unresolvable. -/
theorem resolve_eq_error_iff (place : Place) (layers : List Layer) :
    (∃ e, resolve place (Layer.stack layers) = .error e) ↔ Unresolvable layers := by
  have hbucket : Layer.IsSetting Layer.bucket := ⟨rfl, fun _ _ => rfl⟩
  have htimeout : Layer.IsSetting (·.service.timeout) := ⟨rfl, fun _ _ => rfl⟩
  rw [Unresolvable, ← hbucket.stack_eq_findSome?, ← htimeout.stack_eq_findSome?,
    ← bucket?_eq_none_iff]
  rcases resolve_cases place (Layer.stack layers) with ⟨hnone, herror⟩ | ⟨hzero, herror⟩ |
    ⟨bucket, hsome, hnonzero, hok⟩
  · exact ⟨fun _ => .inl hnone, fun _ => ⟨_, herror⟩⟩
  · exact ⟨fun _ => .inr hzero, fun _ => ⟨_, herror⟩⟩
  · constructor
    · rintro ⟨e, herror⟩
      cases hok.symm.trans herror
    · rintro (hnone | hzero)
      · cases hsome.symm.trans hnone
      · exact absurd hzero hnonzero

/-! ## Loading -/

/-- A file that can be used puts in what it sets. -/
theorem exists_fileLayer {state : FileState} (h : state.Usable) (path : String) :
    ∃ file, fileLayer path state = .ok file ∧ layerOf file = state.layer := by
  cases state with
  | absent => exact ⟨none, rfl, rfl⟩
  | unreadable => exact h.elim
  | text content =>
      obtain ⟨file, hfile⟩ := h
      obtain ⟨tree, htree, hread⟩ := Option.bind_eq_some_iff.mp hfile
      refine ⟨some file, ?_, ?_⟩
      · rw [fileLayer, hfile]
      · rw [FileState.layer, htree]
        exact LayerFile.layer_eq_said hread

theorem usable_of_fileLayer {state : FileState} {path : String} {file : Option LayerFile}
    (h : fileLayer path state = .ok file) : state.Usable := by
  cases state with
  | absent => trivial
  | unreadable => cases h
  | text content =>
      rw [fileLayer] at h
      split at h
      · next found hfound => exact ⟨found, hfound⟩
      · cases h

theorem exists_profile {place : Place} {look : String → FileState}
    (h : (profileState place look).Usable) :
    ∃ file, profile place (profileState place look) = .ok file ∧
      layerOf file = (profileState place look).layer := by
  unfold profile profileState at *
  cases hpath : profilePath place with
  | none => exact ⟨none, rfl, rfl⟩
  | some path =>
      rw [hpath] at h
      exact exists_fileLayer h path

theorem usable_of_profile {place : Place} {look : String → FileState} {file : Option LayerFile}
    (h : profile place (profileState place look) = .ok file) :
    (profileState place look).Usable := by
  unfold profile profileState at *
  cases hpath : profilePath place with
  | none => trivial
  | some path =>
      rw [hpath] at h
      exact usable_of_fileLayer h

/-- The overrides name a file that is not there. -/
def OverlayMissing (place : Place) (overrides : Overrides) (look : String → FileState) : Prop :=
  overrides.file.isSome ∧ overlayState place overrides look = .absent

variable {place : Place} {overrides : Overrides} {look : String → FileState}

theorem overlay_of_missing (h : OverlayMissing place overrides look) :
    overlay place overrides (overlayState place overrides look) =
      .error (.fileAbsent (overlayPath place overrides)) :=
  if_pos h

theorem overlay_of_not_missing (h : ¬ OverlayMissing place overrides look) :
    overlay place overrides (overlayState place overrides look) =
      fileLayer (overlayPath place overrides) (overlayState place overrides look) :=
  if_neg h

/-- With files that can be used and no missing overlay, loading resolves the stack of layers. -/
theorem loadFrom_eq_resolve (hprofile : (profileState place look).Usable)
    (hoverlay : (overlayState place overrides look).Usable)
    (hpresent : ¬ OverlayMissing place overrides look) :
    loadFrom place overrides look =
      resolve place (Layer.stack (layers place overrides look)) := by
  obtain ⟨profileFile, hprofileFile, hprofileLayer⟩ := exists_profile hprofile
  obtain ⟨overlayFile, hoverlayFile, hoverlayLayer⟩ :=
    exists_fileLayer hoverlay (overlayPath place overrides)
  have hstack : Layer.stack (layers place overrides look) =
      overrides.layer.over ((layerOf overlayFile).over (layerOf profileFile)) := by
    rw [hoverlayLayer, hprofileLayer, ← Layer.over_empty (profileState place look).layer]
    rfl
  rw [loadFrom, load, hprofileFile, overlay_of_not_missing hpresent, hoverlayFile, hstack]
  rfl

theorem loadFrom_of_overlayMissing (hprofile : (profileState place look).Usable)
    (h : OverlayMissing place overrides look) :
    loadFrom place overrides look = .error (.fileAbsent (overlayPath place overrides)) := by
  obtain ⟨file, hfile, _⟩ := exists_profile hprofile
  rw [loadFrom, load, hfile, overlay_of_missing h]
  rfl

/-- Settings are loaded from files that can be used, and the file that the overrides name is
there. -/
theorem usable_of_loadFrom {settings : Settings}
    (h : loadFrom place overrides look = .ok settings) :
    (profileState place look).Usable ∧ (overlayState place overrides look).Usable ∧
      ¬ OverlayMissing place overrides look := by
  rw [loadFrom, load] at h
  cases hprofile : profile place (profileState place look) with
  | error e =>
      rw [hprofile] at h
      cases h
  | ok profileFile =>
      rw [hprofile] at h
      refine ⟨usable_of_profile hprofile, ?_⟩
      by_cases hmissing : OverlayMissing place overrides look
      · rw [overlay_of_missing hmissing] at h
        cases h
      · rw [overlay_of_not_missing hmissing] at h
        refine ⟨?_, hmissing⟩
        cases hoverlay : fileLayer (overlayPath place overrides)
            (overlayState place overrides look) with
        | error e =>
            rw [hoverlay] at h
            cases h
        | ok overlayFile => exact usable_of_fileLayer hoverlay

/-! ## The local file -/

theorem profilePath_ne_fileName : profilePath place ≠ some fileName := by
  unfold profilePath
  cases place.home with
  | none => nofun
  | some home =>
      intro h
      have hbase : Path.join home ".couchquery" ≠ "" := by
        by_cases hhome : home = ""
        · rw [hhome]
          decide
        · intro hempty
          have hslash := Path.slash_mem_join hhome ".couchquery"
          rw [hempty] at hslash
          cases hslash
      have hslash := Path.slash_mem_join hbase fileName
      rw [Option.map_some, Option.some_inj] at h
      rw [h] at hslash
      revert hslash
      decide

/-- With a file that the overrides name, the local one is not looked at. -/
theorem loadFrom_of_file {path : String} (hfile : overrides.file = some path)
    (hwork : Path.isAbsolute place.work) {other : String → FileState}
    (h : ∀ path, path ≠ fileName → other path = look path) :
    loadFrom place overrides other = loadFrom place overrides look := by
  have hoverlay : overlayState place overrides other = overlayState place overrides look := by
    unfold overlayState
    rw [hfile]
    refine h _ ?_
    intro heq
    have habsolute := Path.isAbsolute_expand hwork path
    rw [heq] at habsolute
    revert habsolute
    decide
  have hprofile : profileState place other = profileState place look := by
    unfold profileState
    cases hpath : profilePath place with
    | none => rfl
    | some path =>
        refine h path ?_
        rintro rfl
        exact profilePath_ne_fileName hpath
  rw [loadFrom, loadFrom, hoverlay, hprofile]

/-- **Layers resolve key by key.** Whatever the files contain and the overrides say, settings that
are loaded have each setting from the highest layer that sets it, or else the default. With files
that can be used, loading fails exactly when the file that the overrides name is missing, or no
settings can be chosen from the layers. With such a file the local one is never looked at. And it
makes no difference which of three layers are put over each other first. -/
theorem loadFrom_layers (place : Place) (overrides : Overrides) (look : String → FileState) :
    (∀ settings, loadFrom place overrides look = .ok settings →
      ChosenFrom place (layers place overrides look) settings) ∧
    ((profileState place look).Usable → (overlayState place overrides look).Usable →
      ((∃ e, loadFrom place overrides look = .error e) ↔
        OverlayMissing place overrides look ∨ Unresolvable (layers place overrides look))) ∧
    (∀ path, overrides.file = some path → Path.isAbsolute place.work →
      ∀ other : String → FileState, (∀ path, path ≠ fileName → other path = look path) →
        loadFrom place overrides other = loadFrom place overrides look) ∧
    ∀ a b c : Layer, (a.over b).over c = a.over (b.over c) := by
  refine ⟨?_, ?_, ?_, Layer.over_assoc⟩
  · intro settings h
    obtain ⟨hprofile, hoverlay, hpresent⟩ := usable_of_loadFrom h
    rw [loadFrom_eq_resolve hprofile hoverlay hpresent] at h
    exact chosenFrom_of_resolve h
  · intro hprofile hoverlay
    by_cases hmissing : OverlayMissing place overrides look
    · have herror := loadFrom_of_overlayMissing hprofile hmissing
      exact ⟨fun _ => .inl hmissing, fun _ => ⟨_, herror⟩⟩
    · rw [loadFrom_eq_resolve hprofile hoverlay hmissing, resolve_eq_error_iff,
        or_iff_right hmissing]
  · intro path hfile hwork other h
    exact loadFrom_of_file hfile hwork h

/-- Where a run starts. -/
def brewery : Place := ⟨some "/home/ada", "/srv"⟩

/-- Overrides that name a file and set one part of the query service. -/
def breweryOverrides : Overrides :=
  { file := some "beer.json", layer := { service := { username := some "ada" } } }

/-- An overlay with a second part of the query service, a profile with the other two and a bucket
that the overlay names too, and a local file that cannot be read. -/
def breweryFiles (path : String) : FileState :=
  if path = "/srv/beer.json" then
    .text "\x7b\"bucket\":\" beer \",\"query\":\x7b\"timeout_secs\":5\x7d\x7d"
  else if path = "/home/ada/.couchquery/couchquery.json" then
    .text "\x7b\"bucket\":\"ale\",\"query\":[\"http://db\",null,\"pw\",9],\"data\":\"~/d\"\x7d"
  else if path = fileName then .unreadable
  else .absent

/-- The settings from these layers. -/
def brewerySettings : Settings :=
  ⟨"beer", ⟨false, true⟩, ⟨"http://db", some "ada", some "pw"⟩, 5, some "/home/ada/d"⟩

/-- Each layer gives the parts that it sets; without the local file they are the same. -/
theorem loadFrom_layers_brewery :
    ChosenFrom brewery (layers brewery breweryOverrides breweryFiles) brewerySettings ∧
    (profileState brewery breweryFiles).Usable ∧
    (overlayState brewery breweryOverrides breweryFiles).Usable ∧
    ¬ Unresolvable (layers brewery breweryOverrides breweryFiles) ∧
    loadFrom brewery breweryOverrides
      (fun path => if path = fileName then .absent else breweryFiles path) =
        .ok brewerySettings := by
  have hload : loadFrom brewery breweryOverrides breweryFiles = .ok brewerySettings := by
    decide +kernel
  obtain ⟨hprofile, hoverlay, _⟩ := usable_of_loadFrom hload
  obtain ⟨hchosen, herror, hlocal, _⟩ := loadFrom_layers brewery breweryOverrides breweryFiles
  refine ⟨hchosen _ hload, hprofile, hoverlay, ?_, ?_⟩
  · intro hunresolvable
    obtain ⟨e, he⟩ := (herror hprofile hoverlay).mpr (.inr hunresolvable)
    cases hload.symm.trans he
  · rw [hlocal "beer.json" rfl rfl _ fun path hpath => if_neg hpath, hload]

end Settings

end BucketQuery
