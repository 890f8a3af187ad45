import CartridgeBank.Config.Reading
import CartridgeBank.Json.Grammar

namespace CartridgeBank

/-- Reads a configuration written in JSON, without checking its settings. -/
def Config.ofJson? (text : String) : Option Config :=
  (Json.document? text).bind Config.ofDocument?

end CartridgeBank
