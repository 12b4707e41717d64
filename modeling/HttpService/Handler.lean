import HttpService.Message.Response
import HttpService.Site

/-!
# Handlers

A handler answers a request or fails. It gets a copy of the context: what it does to it is seen by
nobody else.
-/

namespace HttpService

abbrev Handler := Context → Request → Act Site (Except Failure Response)

end HttpService
