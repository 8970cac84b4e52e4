/-!
# Commands to Redis

Locks, the event stream and the rate limiter live in Redis.  A command is carried out by
the server in one piece; whether the caller learns of it is another matter.

The three cases are what a client of Redis can see of a command: an answer, an exception after the
command was carried out, and an exception before it was. The caller cannot tell the last two
apart, so every step that sends a command has a branch for each.
-/

namespace AfricaFrontier

/-- What becomes of a command to Redis: the caller has its answer, or it was carried
out and the caller sees an exception, or it was not carried out and the caller sees an
exception. -/
inductive RedisReply
  | answered
  | lost
  | refused
  deriving DecidableEq

end AfricaFrontier
