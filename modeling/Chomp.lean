import Chomp.Robot.Model
import Chomp.Trajectory.Buffer
import Chomp.Trajectory.GroupTrajectory
import Chomp.Planner.Parameters
import Chomp.Planner.Recovery
import Chomp.Trajectory.Resample
import Chomp.Trajectory.MinJerk
import Chomp.Trajectory.Interpolation
import Chomp.Planner.Solve
import Chomp.Planner.Output
import Chomp.Planner.WrapAround
import Chomp.Planner.Endpoints
