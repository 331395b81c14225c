import HttpsServerSim.Config.ConfigLoading
import HttpsServerSim.Lib.Interleaving
import HttpsServerSim.Utils.ConfigLoading

/-!
# The directory of the callbacks

`config::Config` has the directory twice, by itself and in the section of the callbacks. `reset`
and a load write both, `set_callbacks` and `set_callbacks_dir` one of them each.
-/

namespace HttpsServerSim

namespace Configuration

/-- The operations that may change a configuration. -/
inductive ConfigCall where
  | reset
  | loadFromString (jsonStr : Bytes)
  | loadFromFile (contents : Option Bytes)
  | setListens (listens : List ListenConfig)
  | setCertificates (certificates : CertificatesConfig)
  | setDebug (debug : DebugConfig)
  | setCallbacks (callbacks : CallbacksConfig)
  | setLogging (logging : LoggingConfig)
  | setHttp2 (http2 : Http2Config)
  | setCallbacksDir (dir : Bytes)

namespace Config

/-- The configuration that an operation leaves, whatever it returns. -/
def apply (library : JsonLibrary) (config : Config) : ConfigCall → Config
  | .reset => config.reset
  | .loadFromString jsonStr => (config.loadFromString library jsonStr).2
  | .loadFromFile contents => (config.loadFromFile library contents).2
  | .setListens listens => config.setListens listens
  | .setCertificates certificates => config.setCertificates certificates
  | .setDebug debug => config.setDebug debug
  | .setCallbacks callbacks => config.setCallbacks callbacks
  | .setLogging logging => config.setLogging logging
  | .setHttp2 http2 => config.setHttp2 http2
  | .setCallbacksDir dir => config.setCallbacksDir dir

/-- Every operation is possible in every state. -/
def step (library : JsonLibrary) (config : Config) (call : ConfigCall) : Option Config :=
  some (config.apply library call)

/-- `get_callbacks_dir() == get_callbacks().callbacks_dir`. -/
def DirectoriesAgree (config : Config) : Prop :=
  config.callbacksDir = config.callbacks.callbacksDir

instance : DecidablePred DirectoriesAgree := fun config =>
  inferInstanceAs (Decidable (config.callbacksDir = config.callbacks.callbacksDir))

/-- A setter that writes one of the copies writes what the other one is. -/
def WritesOther (config : Config) : ConfigCall → Prop
  | .setCallbacks callbacks => callbacks.callbacksDir = config.callbacksDir
  | .setCallbacksDir dir => dir = config.callbacks.callbacksDir
  | _ => True

variable {library : JsonLibrary} {config : Config}

theorem directoriesAgree_construct : construct.DirectoriesAgree := rfl

/-- A load leaves the directories alone, or writes both. -/
theorem DirectoriesAgree.loadFromString (agree : config.DirectoriesAgree) (jsonStr : Bytes) :
    (config.loadFromString library jsonStr).2.DirectoriesAgree := by
  cases parsed : library.parse jsonStr with
  | none =>
      rw [config.loadFromString_of_not_parse parsed]
      exact agree
  | some j =>
      rcases config.exists_loaded_of_parse parsed with ⟨after, done, loaded⟩
      rw [done]
      by_cases absent : ∀ found, j.member (ascii "callbacks") = some found → found.isObject = false
      · have same := loaded.callbacks.absent absent
        simp only [Prod.mk.injEq] at same
        simpa [DirectoriesAgree, same] using agree
      · simp only [not_forall, Bool.not_eq_false] at absent
        rcases absent with ⟨found, isMember, isObject⟩
        exact (loaded.callbacks.present found isMember isObject).callbacksDir

/-- What one operation does to copies that agree. -/
theorem directoriesAgree_apply_iff (agree : config.DirectoriesAgree) (call : ConfigCall) :
    (config.apply library call).DirectoriesAgree ↔ config.WritesOther call := by
  cases call with
  | reset => exact iff_of_true directoriesAgree_construct trivial
  | loadFromString jsonStr => exact iff_of_true (agree.loadFromString jsonStr) trivial
  | loadFromFile contents =>
      cases contents with
      | none => exact iff_of_true agree trivial
      | some contents => exact iff_of_true (agree.loadFromString contents) trivial
  | setListens | setCertificates | setDebug | setLogging | setHttp2 =>
      exact iff_of_true agree trivial
  | setCallbacks callbacks => exact eq_comm
  | setCallbacksDir dir => exact Iff.rfl

/-- For every sequence of operations. -/
theorem directoriesAgree_iff (library : JsonLibrary) (calls : List ConfigCall) :
    (construct.DirectoriesAgree ∧
        Interleaving.Throughout (step library) DirectoriesAgree construct calls) ↔
      Interleaving.Along (step library) WritesOther construct calls := by
  have agrees : ∀ {config : Config} {call : ConfigCall}, config.DirectoriesAgree →
      ((∀ next, config.step library call = some next → next.DirectoriesAgree) ↔
        config.WritesOther call) := by
    intro config call agree
    simpa [step] using directoriesAgree_apply_iff agree call
  have kept : ∀ {config next : Config} {call : ConfigCall}, config.DirectoriesAgree →
      config.WritesOther call → config.step library call = some next → next.DirectoriesAgree := by
    intro config next call agree writes stepped
    exact (agrees agree).mpr writes next stepped
  rw [Interleaving.throughout_iff_along agrees kept directoriesAgree_construct]
  simp [directoriesAgree_construct]

/-- The directory is set by itself. -/
theorem directoriesAgree_fails :
    ¬∀ (library : JsonLibrary) (calls : List ConfigCall),
      construct.DirectoriesAgree ∧
        Interleaving.Throughout (step library) DirectoriesAgree construct calls := by
  intro alwaysAgree
  have agree :=
    (alwaysAgree (Utils.readsOnly [] .null) [.setCallbacksDir (ascii "custom_callbacks")]).2
  have stale := agree.1 _ rfl
  exact absurd stale (by decide)

end Config

end Configuration

end HttpsServerSim
