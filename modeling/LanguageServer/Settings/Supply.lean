import LanguageServer.Settings.Cache

/-!
# Settings and their source

A cache is used by operations in any order. Polls of the lookups that it handed out are among them,
and so are changes of what its source answers. The source is asked at the first poll of a pull. An
answer that is there when a pull is polled arrives in that poll; as long as there is none, the pull
waits.
-/

namespace LanguageServer

/-- A question to the source: the value of a section as it is for a document. -/
structure Fetch where
  ticket : Nat
  uri : Uri
  sectionName : String
deriving DecidableEq, Repr

/-- A cache, and what its source answers at the moment, if anything. -/
structure SettingsSupply where
  cache : SettingsCache
  answer? : Option PullAnswer

namespace SettingsSupply

def new (answer? : Option PullAnswer) : SettingsSupply := ⟨.empty, answer?⟩

inductive Operation where
  | setPullEnabled (enabled : Bool)
  | setGlobal (settings : Settings)
  | get (uri : Uri)
  | invalidateAll
  | remove (uri : Uri)
  | evictFailed (uri : Uri)
  | poll (ticket : Nat)
  /-- From now on the source answers this, or nothing. -/
  | respond (answer? : Option PullAnswer)

def poll (supply : SettingsSupply) (ticket : Nat) : SettingsSupply × List Fetch :=
  let (cache, asked?) := supply.cache.poll ticket
  -- One poll can both ask and settle, as the answer is looked up behind the first one.
  let cache := match supply.answer? with
    | some answer => ((cache.receive ticket answer).poll ticket).1
    | none => cache
  ({ supply with cache }, asked?.toList.map fun uri => ⟨ticket, uri, Settings.sectionName⟩)

def step (supply : SettingsSupply) : Operation → SettingsSupply × List Fetch
  | .setPullEnabled enabled => ({ supply with cache := supply.cache.setPullEnabled enabled }, [])
  | .setGlobal settings => ({ supply with cache := supply.cache.setGlobal settings }, [])
  | .get uri => ({ supply with cache := (supply.cache.get uri).2 }, [])
  | .invalidateAll => ({ supply with cache := supply.cache.invalidateAll }, [])
  | .remove uri => ({ supply with cache := supply.cache.remove uri }, [])
  | .evictFailed uri => ({ supply with cache := supply.cache.evictFailed uri }, [])
  | .poll ticket => supply.poll ticket
  | .respond answer? => ({ supply with answer? }, [])

def run (supply : SettingsSupply) : List Operation → SettingsSupply × List Fetch
  | [] => (supply, [])
  | operation :: operations =>
    let (supply, asked) := supply.step operation
    let (supply, later) := supply.run operations
    (supply, asked ++ later)

end SettingsSupply

end LanguageServer
