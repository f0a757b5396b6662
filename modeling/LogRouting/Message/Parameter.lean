import LogRouting.Json.Reader

namespace LogRouting.Message

def parameter (raw : String) : Value := (Json.read? raw).getD (.string raw)

end LogRouting.Message
